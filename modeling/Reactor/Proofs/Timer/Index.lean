import Mathlib.Data.List.Nodup
import Reactor.Proofs.Timer.Agenda

/-!
# The index of a set of timers

The agenda and the index of a set of timers describe the same timers, each
identifier once.  Arming adds a timer to both, and all other changes are to keep
the timers of the agenda that have some property, and the entries of the index
that belong to them.
-/

namespace Reactor

namespace TimerSet

variable {ω : Type}

/-! ## The invariant -/

/-- What the index holds of an armed timer. -/
def entryOf (timer : ArmedTimer ω) : TimerId × Instant :=
  (timer.id, timer.deadline)

structure Indexed (timers : TimerSet ω) : Prop where
  entries : timers.index.Perm (timers.agenda.map entryOf)
  distinct : (timers.agenda.map (·.id)).Nodup
  /-- The identifiers that are still to be issued are not in use. -/
  issued : ∀ timer ∈ timers.agenda, timer.id.value <= timers.issued

theorem indexed_empty : (empty : TimerSet ω).Indexed where
  entries := .refl _
  distinct := .nil
  issued _ hmem := absurd hmem List.not_mem_nil

theorem perm_schedule (timer : ArmedTimer ω) (agenda : List (ArmedTimer ω)) :
    (schedule timer agenda).Perm (timer :: agenda) := by
  induction agenda with
  | nil => exact .refl _
  | cons next rest ih =>
      unfold schedule
      split
      · exact .refl _
      · exact (ih.cons next).trans (.swap timer next rest)

theorem Indexed.eq_of_id_eq {timers : TimerSet ω} (h : timers.Indexed) {a b : ArmedTimer ω}
    (ha : a ∈ timers.agenda) (hb : b ∈ timers.agenda) (same : a.id = b.id) : a = b :=
  List.inj_on_of_nodup_map h.distinct ha hb same

/-- Of two timers of the agenda, the one that stands ahead comes before the other. -/
theorem Indexed.pairwise_before {timers : TimerSet ω} (h : timers.Indexed)
    (ordered : timers.Ordered) : timers.agenda.Pairwise ArmedTimer.before := by
  have apart : timers.agenda.Pairwise fun ahead behind => ahead.id ≠ behind.id :=
    List.pairwise_map.1 h.distinct
  refine (apart.and ordered).imp fun {ahead behind} both => ?_
  by_contra behindhand
  exact both.1 (ArmedTimer.id_eq_of_not_before behindhand both.2)

/-! ## Looking a timer up -/

theorem find?_congr {p q : ArmedTimer ω -> Bool} {agenda : List (ArmedTimer ω)}
    (same : ∀ timer ∈ agenda, p timer = q timer) : agenda.find? p = agenda.find? q := by
  rw [← List.head?_filter, ← List.head?_filter, List.filter_congr same]

theorem lookup_eq_some_iff {index : List (TimerId × Instant)}
    (distinct : (index.map Prod.fst).Nodup) {id : TimerId} {deadline : Instant} :
    index.lookup id = some deadline ↔ (id, deadline) ∈ index := by
  constructor
  · intro h
    obtain ⟨front, back, rfl, -⟩ := List.lookup_eq_some_iff.1 h
    exact List.mem_append_right _ (.head _)
  · intro hmem
    obtain ⟨front, back, rfl⟩ := List.append_of_mem hmem
    refine List.lookup_eq_some_iff.2 ⟨front, back, rfl, fun other hother => ?_⟩
    rw [List.map_append, List.nodup_append] at distinct
    have hne := distinct.2.2 other.1 (List.mem_map_of_mem hother) id (.head _)
    simpa using Ne.symm hne

section Indexed

variable {timers : TimerSet ω} (h : timers.Indexed)
include h

theorem Indexed.distinct_index : (timers.index.map Prod.fst).Nodup := by
  refine ((h.entries.map Prod.fst).nodup_iff).2 ?_
  rw [List.map_map]
  exact h.distinct

theorem Indexed.deadline?_eq_some_iff {id : TimerId} {deadline : Instant} :
    timers.deadline? id = some deadline ↔
      ∃ timer ∈ timers.agenda, timer.id = id ∧ timer.deadline = deadline := by
  unfold deadline?
  rw [lookup_eq_some_iff h.distinct_index, h.entries.mem_iff, List.mem_map]
  simp [entryOf]

theorem Indexed.deadline?_eq_none_iff {id : TimerId} :
    timers.deadline? id = none ↔ ∀ timer ∈ timers.agenda, timer.id ≠ id := by
  rw [Option.eq_none_iff_forall_ne_some]
  constructor
  · intro hnone timer hmem same
    exact hnone timer.deadline (h.deadline?_eq_some_iff.2 ⟨timer, hmem, same, rfl⟩)
  · intro hnone deadline hsome
    obtain ⟨timer, hmem, same, -⟩ := h.deadline?_eq_some_iff.1 hsome
    exact hnone timer hmem same

/-- The owner that the index leads to is the owner of the one timer with the identifier. -/
theorem Indexed.owner?_eq (id : TimerId) :
    timers.owner? id = (timers.agenda.find? fun timer => timer.id = id).map (·.owner) := by
  unfold owner?
  cases hdeadline : timers.deadline? id with
  | none =>
      have hfind : (timers.agenda.find? fun timer => timer.id = id) = none :=
        List.find?_eq_none.2 fun timer hmem => by
          simpa using h.deadline?_eq_none_iff.1 hdeadline timer hmem
      rw [hfind]
      rfl
  | some deadline =>
      obtain ⟨timer, hmem, rfl, rfl⟩ := h.deadline?_eq_some_iff.1 hdeadline
      -- The deadline that the index gives adds nothing to what is looked for.
      have same : ∀ other ∈ timers.agenda,
          decide (other.deadline = timer.deadline ∧ other.id = timer.id) =
            decide (other.id = timer.id) := by
        intro other hother
        rw [decide_eq_decide]
        refine ⟨And.right, fun same => ⟨?_, same⟩⟩
        rw [h.eq_of_id_eq hother hmem same]
      simp only [Option.bind_eq_bind, Option.bind_some]
      rw [find?_congr same]
      cases timers.agenda.find? fun other => decide (other.id = timer.id) <;> rfl

/-! ## Arming and disarming -/

/-- A timer is armed under an identifier that is not in use. -/
theorem Indexed.arm (timer : ArmedTimer ω) {issued : Nat} (later : timers.issued <= issued)
    (bound : timer.id.value <= issued) (new : ∀ other ∈ timers.agenda, other.id ≠ timer.id) :
    (TimerSet.mk (schedule timer timers.agenda) (entryOf timer :: timers.index)
      issued).Indexed where
  entries := (h.entries.cons _).trans ((perm_schedule timer timers.agenda).map entryOf).symm
  distinct := by
    refine (((perm_schedule timer timers.agenda).map (·.id)).nodup_iff).2 ?_
    refine List.nodup_cons.2 ⟨fun hmem => ?_, h.distinct⟩
    obtain ⟨other, hother, same⟩ := List.mem_map.1 hmem
    exact new other hother same
  issued other hmem := by
    rcases mem_schedule.1 hmem with rfl | hmem
    · exact bound
    · exact Nat.le_trans (h.issued other hmem) later

/-- Some timers are kept, and the entries that belong to them. -/
theorem Indexed.keep {p : ArmedTimer ω -> Bool} {q : TimerId × Instant -> Bool}
    (agree : ∀ timer ∈ timers.agenda, q (entryOf timer) = p timer) :
    { timers with
      agenda := timers.agenda.filter p
      index := timers.index.filter q }.Indexed where
  entries := by
    have hmap : (timers.agenda.map entryOf).filter q = (timers.agenda.filter p).map entryOf := by
      rw [List.filter_map]
      exact congrArg (List.map entryOf) (List.filter_congr agree)
    rw [← hmap]
    exact h.entries.filter q
  distinct := h.distinct.sublist (List.filter_sublist.map _)
  issued timer hmem := h.issued timer (List.mem_filter.1 hmem).1

theorem Indexed.insert (owner : ω) (now : Instant) (interval : Duration) (mode : TimerMode) :
    (timers.insert owner now interval mode).2.2.Indexed := by
  refine h.arm (timers.newcomer owner now interval mode) (Nat.le_succ _) (Nat.le_refl _)
    fun other hmem same => ?_
  have bound := h.issued other hmem
  rw [same] at bound
  exact Nat.not_succ_le_self _ bound

/-- Disarming a timer that is armed or not: whoever has the identifier is gone. -/
theorem Indexed.erase_eq (id : TimerId) :
    timers.erase id =
      (timers.agenda.any fun timer => timer.id = id,
        { timers with
          agenda := timers.agenda.filter fun timer => timer.id ≠ id
          index := forget id timers.index }) := by
  unfold erase
  cases hdeadline : timers.deadline? id with
  | none =>
      have absent := h.deadline?_eq_none_iff.1 hdeadline
      have hany : (timers.agenda.any fun timer => timer.id = id) = false := by
        simpa [List.any_eq_false] using absent
      have hagenda : (timers.agenda.filter fun timer => timer.id ≠ id) = timers.agenda :=
        List.filter_eq_self.2 fun timer hmem => by simpa using absent timer hmem
      have hindex : forget id timers.index = timers.index := by
        refine List.filter_eq_self.2 fun entry hmem => ?_
        obtain ⟨timer, htimer, rfl⟩ := List.mem_map.1 (h.entries.mem_iff.1 hmem)
        exact decide_eq_true (absent timer htimer)
      rw [hany, hagenda, hindex]
  | some deadline =>
      obtain ⟨timer, hmem, rfl, rfl⟩ := h.deadline?_eq_some_iff.1 hdeadline
      have hany : (timers.agenda.any fun other => other.id = timer.id) = true :=
        List.any_eq_true.2 ⟨timer, hmem, by simp⟩
      have hagenda : unschedule timer.deadline timer.id timers.agenda =
          timers.agenda.filter fun other => other.id ≠ timer.id := by
        refine List.filter_congr fun other hother => ?_
        by_cases same : other.id = timer.id
        · simp [h.eq_of_id_eq hother hmem same]
        · simp [same]
      simp only [hany, hagenda]

theorem Indexed.erase (id : TimerId) : (timers.erase id).2.Indexed := by
  rw [h.erase_eq]
  exact h.keep fun timer hmem => rfl

end Indexed

theorem foldl_forget (gone : List (ArmedTimer ω)) (index : List (TimerId × Instant)) :
    gone.foldl (fun index timer => forget timer.id index) index =
      index.filter fun entry => gone.all fun timer => entry.1 ≠ timer.id := by
  induction gone generalizing index with
  | nil => simp
  | cons timer rest ih =>
      rw [List.foldl_cons, ih, forget, List.filter_filter]
      refine List.filter_congr fun entry _ => ?_
      rw [List.all_cons, Bool.and_comm]

section Indexed

variable {timers : TimerSet ω} (h : timers.Indexed)
include h

theorem Indexed.eraseWhere (p : ω -> Bool) : (timers.eraseWhere p).2.Indexed := by
  unfold TimerSet.eraseWhere
  simp only [foldl_forget]
  refine h.keep fun timer hmem => ?_
  cases hp : p timer.owner with
  | true =>
      have gone : timer ∈ timers.agenda.filter fun timer => p timer.owner :=
        List.mem_filter.2 ⟨hmem, hp⟩
      exact List.all_eq_false.2 ⟨timer, gone, by simp [entryOf]⟩
  | false =>
      refine List.all_eq_true.2 fun other hgone => decide_eq_true fun same => ?_
      obtain ⟨hother, hp'⟩ := List.mem_filter.1 hgone
      rw [← h.eq_of_id_eq hmem hother same, hp] at hp'
      cases hp'

/-- Without its head an agenda is what it is without the identifier of the head. -/
theorem Indexed.filter_head {timer : ArmedTimer ω} {rest : List (ArmedTimer ω)}
    (hagenda : timers.agenda = timer :: rest) :
    (timers.agenda.filter fun other => other.id ≠ timer.id) = rest := by
  have distinct := h.distinct
  rw [hagenda, List.map_cons, List.nodup_cons] at distinct
  rw [hagenda, List.filter_cons, if_neg (by simp)]
  refine List.filter_eq_self.2 fun other hmem => decide_eq_true fun same => ?_
  exact distinct.1 (List.mem_map.2 ⟨other, hmem, same⟩)

theorem Indexed.popExpired {after : TimerSet ω} {now : Instant} {taken : TimerId × ω}
    (hpop : timers.popExpired now = some (taken, after)) : after.Indexed := by
  obtain ⟨timer, rest, hagenda, -, -, hafter⟩ := popExpired_cases hpop
  have left := h.keep (p := fun other => other.id ≠ timer.id)
    (q := fun entry => entry.1 ≠ timer.id) fun _ _ => rfl
  rw [h.filter_head hagenda] at left
  rcases hafter with ⟨-, rfl⟩ | ⟨-, rfl⟩
  · exact left
  · refine left.arm (timer.rearm now) (Nat.le_refl _)
      (h.issued timer (hagenda ▸ .head _)) fun other hmem same => ?_
    have hold : other ∈ timers.agenda.filter fun other => other.id ≠ timer.id := by
      rw [h.filter_head hagenda]
      exact hmem
    have hne : other.id ≠ timer.id := by simpa using (List.mem_filter.1 hold).2
    exact hne same

end Indexed

theorem indexed_clear (timers : TimerSet ω) : timers.clear.Indexed where
  entries := .refl _
  distinct := .nil
  issued _ hmem := absurd hmem List.not_mem_nil

end TimerSet

end Reactor
