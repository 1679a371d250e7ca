import Reactor.Proofs.Timer.Index

/-!
# The timer armed under an identifier

At most one timer is armed under an identifier.  Each operation is an equation
that says which one it is afterwards: arming gives the new identifier its timer,
disarming keeps the timers that were not meant, and a firing dates the timer that
fired anew or disarms it.  The timers of all other identifiers stay as they were.
-/

namespace Reactor

/-- What is armed after a timer has fired at the reading `now`. -/
def ArmedTimer.again? {ω : Type} (timer : ArmedTimer ω) (now : Instant) :
    Option (ArmedTimer ω) :=
  match timer.mode with
  | .oneShot => none
  | .repeating => some (timer.rearm now)

namespace TimerSet

variable {ω : Type} {timers after : TimerSet ω} {id : TimerId} {timer : ArmedTimer ω}

/-- The timer that is armed under an identifier. -/
def armed? (timers : TimerSet ω) (id : TimerId) : Option (ArmedTimer ω) :=
  timers.agenda.find? fun timer => timer.id = id

theorem armed?_eq_none_iff : timers.armed? id = none ↔ ∀ timer ∈ timers.agenda, timer.id ≠ id := by
  unfold armed?
  rw [List.find?_eq_none]
  simp only [decide_eq_true_eq]

theorem mem_of_armed?_eq_some (h : timers.armed? id = some timer) :
    timer ∈ timers.agenda ∧ timer.id = id := by
  unfold armed? at h
  exact ⟨List.mem_of_find?_eq_some h, by simpa using List.find?_some h⟩

theorem issued_popExpired {now : Instant} {taken : TimerId × ω}
    (hpop : timers.popExpired now = some (taken, after)) : after.issued = timers.issued := by
  obtain ⟨timer, rest, -, -, -, ⟨-, rfl⟩ | ⟨-, rfl⟩⟩ := popExpired_cases hpop
  · rfl
  · rfl

section Indexed

variable (h : timers.Indexed)
include h

theorem Indexed.armed?_eq_some_iff :
    timers.armed? id = some timer ↔ timer ∈ timers.agenda ∧ timer.id = id := by
  refine ⟨mem_of_armed?_eq_some, ?_⟩
  rintro ⟨hmem, rfl⟩
  cases hother : timers.armed? timer.id with
  | none => exact absurd rfl (armed?_eq_none_iff.1 hother timer hmem)
  | some other =>
      obtain ⟨hother, same⟩ := mem_of_armed?_eq_some hother
      rw [h.eq_of_id_eq hother hmem same]

theorem Indexed.armed?_insert (owner : ω) (now : Instant) (interval : Duration)
    (mode : TimerMode) :
    (timers.insert owner now interval mode).2.2.armed? id =
      if id = ⟨timers.issued + 1⟩ then some (timers.newcomer owner now interval mode)
      else timers.armed? id := by
  refine Option.ext fun timer => ?_
  rw [(h.insert owner now interval mode).armed?_eq_some_iff, mem_agenda_insert]
  split
  · next new =>
      subst new
      constructor
      · rintro ⟨rfl | hold, same⟩
        · rfl
        · have bound := h.issued timer hold
          rw [same] at bound
          exact absurd bound (Nat.not_succ_le_self _)
      · rintro ⟨⟩
        exact ⟨.inl rfl, rfl⟩
  · next old =>
      rw [h.armed?_eq_some_iff]
      constructor
      · rintro ⟨rfl | hold, same⟩
        · exact absurd same.symm old
        · exact ⟨hold, same⟩
      · rintro ⟨hold, same⟩
        exact ⟨.inr hold, same⟩

/-- Where some of the timers with an identifier are kept, the armed one is kept or gone. -/
theorem Indexed.armed?_of_keep (h' : after.Indexed) {p : ArmedTimer ω -> Prop}
    (kept : ∀ timer, timer.id = id ->
      (timer ∈ after.agenda ↔ timer ∈ timers.agenda ∧ p timer)) :
    after.armed? id = some timer ↔ timers.armed? id = some timer ∧ p timer := by
  rw [h'.armed?_eq_some_iff, h.armed?_eq_some_iff]
  constructor
  · rintro ⟨hmem, same⟩
    obtain ⟨hold, hp⟩ := (kept timer same).1 hmem
    exact ⟨⟨hold, same⟩, hp⟩
  · rintro ⟨⟨hold, same⟩, hp⟩
    exact ⟨(kept timer same).2 ⟨hold, hp⟩, same⟩

/-- A firing takes the timer that is armed under its identifier, and no other one. -/
theorem Indexed.armed?_popExpired {now : Instant} {fired : TimerId} {owner : ω}
    (hpop : timers.popExpired now = some ((fired, owner), after)) :
    ∃ timer, timers.armed? fired = some timer ∧ timer.owner = owner ∧ timer.deadline <= now ∧
      after.armed? fired = timer.again? now ∧
      ∀ id, id ≠ fired -> after.armed? id = timers.armed? id := by
  obtain ⟨timer, rest, hagenda, rfl, rfl, due, hafter⟩ := popExpired_eq_some hpop
  have h' := h.popExpired hpop
  have harmed : timers.armed? timer.id = some timer :=
    h.armed?_eq_some_iff.2 ⟨hagenda ▸ .head _, rfl⟩
  -- The head is the only timer with its identifier, so the rest has none.
  have hrest : ∀ other, other ∈ rest ↔ other ∈ timers.agenda ∧ other.id ≠ timer.id := by
    intro other
    rw [← h.filter_head hagenda, List.mem_filter, decide_eq_true_eq]
  refine ⟨timer, harmed, rfl, due, ?_, fun id hne => ?_⟩
  · unfold ArmedTimer.again?
    rcases hafter with ⟨hmode, hafter⟩ | ⟨hmode, hafter⟩ <;> rw [hmode]
    · refine armed?_eq_none_iff.2 fun other hmem => ?_
      rw [hafter] at hmem
      exact ((hrest other).1 hmem).2
    · refine h'.armed?_eq_some_iff.2 ⟨?_, rfl⟩
      rw [hafter]
      exact mem_schedule.2 (.inl rfl)
  · refine Option.ext fun other => ?_
    rw [h.armed?_of_keep h' (p := fun _ => True) fun other same => ?_, and_true]
    have hne' : other.id ≠ timer.id := same ▸ hne
    have hrearm : other ≠ timer.rearm now := by
      rintro rfl
      exact hne' rfl
    rcases hafter with ⟨-, hafter⟩ | ⟨-, hafter⟩ <;> rw [hafter] <;>
      simp [hrest, hne', hrearm]

theorem Indexed.owner?_eq_some_iff {owner : ω} :
    timers.owner? id = some owner ↔ ∃ timer, timers.armed? id = some timer ∧ timer.owner = owner := by
  rw [h.owner?_eq, Option.map_eq_some_iff]
  rfl

end Indexed

end TimerSet

end Reactor
