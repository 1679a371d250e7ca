import Reactor.Timer.Set

/-!
# The order of the agenda

Every operation on a set of timers keeps its agenda in order, so the head of the
agenda has the least deadline of all armed timers.  An operation other than
arming leaves no timer that was not there, except that a repeating timer comes
back with another deadline when it has fired.
-/

namespace Reactor

namespace ArmedTimer

variable {ω : Type}

theorem before_iff {a b : ArmedTimer ω} :
    a.before b ↔ a.deadline.nanos < b.deadline.nanos ∨
      (a.deadline.nanos = b.deadline.nanos ∧ a.id.value < b.id.value) := by
  have same : a.deadline = b.deadline ↔ a.deadline.nanos = b.deadline.nanos := by
    constructor
    · intro h
      rw [h]
    · intro h
      cases ha : a.deadline
      cases hb : b.deadline
      simp_all
  unfold before
  rw [same, Instant.lt_def]

theorem before_trans {a b c : ArmedTimer ω} (hab : a.before b) (hbc : b.before c) :
    a.before c := by
  rw [before_iff] at *
  omega

theorem not_before_of_before {a b : ArmedTimer ω} (h : a.before b) : ¬ b.before a := by
  rw [before_iff] at *
  omega

theorem id_eq_of_not_before {a b : ArmedTimer ω} (h : ¬ a.before b) (h' : ¬ b.before a) :
    a.id = b.id := by
  rw [before_iff] at h h'
  have value : a.id.value = b.id.value := by omega
  cases ha : a.id
  cases hb : b.id
  simp_all

/-- A timer that does not come before another one is not due before it. -/
theorem deadline_le_of_not_before {a b : ArmedTimer ω} (h : ¬ b.before a) :
    a.deadline <= b.deadline := by
  rw [before_iff] at h
  rw [Instant.le_def]
  omega

end ArmedTimer

namespace TimerSet

variable {ω : Type}

/-- No timer of the agenda comes before one that stands ahead of it. -/
def Ordered (timers : TimerSet ω) : Prop :=
  timers.agenda.Pairwise fun ahead behind => ¬ behind.before ahead

theorem ordered_empty : (empty : TimerSet ω).Ordered :=
  .nil

theorem pairwise_schedule {timer : ArmedTimer ω} {agenda : List (ArmedTimer ω)}
    (h : agenda.Pairwise fun ahead behind => ¬ behind.before ahead) :
    (schedule timer agenda).Pairwise fun ahead behind => ¬ behind.before ahead := by
  induction agenda with
  | nil => exact List.pairwise_singleton _ _
  | cons next rest ih =>
      obtain ⟨hnext, hrest⟩ := List.pairwise_cons.1 h
      unfold schedule
      split
      next first =>
        refine List.pairwise_cons.2 ⟨?_, h⟩
        intro other hother hbefore
        rcases List.mem_cons.1 hother with rfl | hother
        · exact ArmedTimer.not_before_of_before first hbefore
        · exact hnext other hother (ArmedTimer.before_trans hbefore first)
      next first =>
        refine List.pairwise_cons.2 ⟨?_, ih hrest⟩
        intro other hother
        rcases mem_schedule.1 hother with rfl | hother
        · exact first
        · exact hnext other hother

/-- A timer that does not count leaves those that count in their order. -/
theorem filter_schedule_of_not {p : ArmedTimer ω -> Bool} {timer : ArmedTimer ω}
    {agenda : List (ArmedTimer ω)} (h : p timer = false) :
    (schedule timer agenda).filter p = agenda.filter p := by
  induction agenda with
  | nil => simp [schedule, h]
  | cons next rest ih =>
      unfold schedule
      split
      · simp [List.filter_cons, h]
      · simp only [List.filter_cons, ih]

theorem Ordered.not_before_head {timers : TimerSet ω} (h : timers.Ordered)
    {timer : ArmedTimer ω} {rest : List (ArmedTimer ω)} (hagenda : timers.agenda = timer :: rest)
    {other : ArmedTimer ω} (hmem : other ∈ timers.agenda) : ¬ other.before timer := by
  unfold Ordered at h
  rw [hagenda] at h hmem
  rcases List.mem_cons.1 hmem with rfl | hrest
  · rw [ArmedTimer.before_iff]
    omega
  · exact (List.pairwise_cons.1 h).1 other hrest

/-! ## Arming -/

/-- The timer that an arming adds. -/
def newcomer (timers : TimerSet ω) (owner : ω) (now : Instant) (interval : Duration)
    (mode : TimerMode) : ArmedTimer ω :=
  ⟨⟨owner, interval, mode⟩, ⟨timers.issued + 1⟩, now.deadlineAfter interval⟩

theorem agenda_insert (timers : TimerSet ω) (owner : ω) (now : Instant)
    (interval : Duration) (mode : TimerMode) :
    (timers.insert owner now interval mode).2.2.agenda =
      schedule (timers.newcomer owner now interval mode) timers.agenda :=
  rfl

theorem ordered_insert {timers : TimerSet ω} (h : timers.Ordered) (owner : ω)
    (now : Instant) (interval : Duration) (mode : TimerMode) :
    (timers.insert owner now interval mode).2.2.Ordered :=
  pairwise_schedule h

theorem mem_agenda_insert {timers : TimerSet ω} {owner : ω} {now : Instant}
    {interval : Duration} {mode : TimerMode} {timer : ArmedTimer ω} :
    timer ∈ (timers.insert owner now interval mode).2.2.agenda ↔
      timer = timers.newcomer owner now interval mode ∨ timer ∈ timers.agenda := by
  rw [agenda_insert, mem_schedule]

theorem nextDeadline_eq_none_iff {timers : TimerSet ω} :
    timers.nextDeadline = none ↔ timers.agenda = [] := by
  unfold nextDeadline
  cases timers.agenda <;> simp

theorem nextDeadline_le {timers : TimerSet ω} (h : timers.Ordered) {deadline : Instant}
    (hnext : timers.nextDeadline = some deadline) {timer : ArmedTimer ω}
    (hmem : timer ∈ timers.agenda) : deadline <= timer.deadline := by
  unfold nextDeadline at hnext
  unfold Ordered at h
  cases hagenda : timers.agenda with
  | nil => simp [hagenda] at hmem
  | cons next rest =>
      rw [hagenda] at hnext h hmem
      simp only [List.head?_cons, Option.map_some, Option.some.injEq] at hnext
      subst hnext
      rcases List.mem_cons.1 hmem with rfl | hmem
      · exact Nat.le_refl _
      · exact ArmedTimer.deadline_le_of_not_before ((List.pairwise_cons.1 h).1 timer hmem)

theorem insert_earliest_iff {timers : TimerSet ω} (h : timers.Ordered) {owner : ω}
    {now : Instant} {interval : Duration} {mode : TimerMode} :
    (timers.insert owner now interval mode).2.1 = true ↔
      ∀ timer ∈ timers.agenda, now.deadlineAfter interval < timer.deadline := by
  unfold insert
  cases hnext : timers.nextDeadline with
  | none => simp [nextDeadline_eq_none_iff.1 hnext]
  | some next =>
      simp only [decide_eq_true_eq]
      constructor
      · intro hlt timer hmem
        exact Nat.lt_of_lt_of_le hlt (nextDeadline_le h hnext hmem)
      · intro hall
        obtain ⟨timer, hhead, rfl⟩ := Option.map_eq_some_iff.1 hnext
        exact hall timer (List.mem_of_head? hhead)

/-- A timer that is armed, and is not due before all others, is due after one of them. -/
theorem exists_le_of_not_earliest {timers : TimerSet ω} {owner : ω} {now : Instant}
    {interval : Duration} {mode : TimerMode}
    (h : (timers.insert owner now interval mode).2.1 = false) :
    ∃ timer ∈ timers.agenda,
      timer.deadline <= (timers.newcomer owner now interval mode).deadline := by
  simp only [insert, nextDeadline] at h
  cases hagenda : timers.agenda with
  | nil => simp [hagenda] at h
  | cons next rest =>
      simp only [hagenda, List.head?_cons, Option.map_some, decide_eq_false_iff_not] at h
      refine ⟨next, List.mem_cons_self, ?_⟩
      rw [Instant.lt_def] at h
      exact Nat.le_of_not_lt h

/-! ## Disarming -/

theorem exists_mem_of_owner? {timers : TimerSet ω} {id : TimerId} {owner : ω}
    (h : timers.owner? id = some owner) : ∃ timer ∈ timers.agenda, timer.owner = owner := by
  simp only [owner?, Option.bind_eq_bind, Option.bind_eq_some_iff] at h
  obtain ⟨deadline, -, timer, hfind, howner⟩ := h
  exact ⟨timer, List.mem_of_find?_eq_some hfind, Option.some.inj howner⟩

theorem agenda_erase_sublist (timers : TimerSet ω) (id : TimerId) :
    (timers.erase id).2.agenda.Sublist timers.agenda := by
  unfold erase
  split
  · exact List.filter_sublist
  · exact List.Sublist.refl _

theorem Ordered.of_sublist {timers after : TimerSet ω} (h : timers.Ordered)
    (hsub : after.agenda.Sublist timers.agenda) : after.Ordered :=
  h.sublist hsub

/-! ## Firing -/

/-- A firing takes the head of the agenda, which is due, and arms it again if it repeats. -/
theorem popExpired_cases {timers after : TimerSet ω} {now : Instant} {taken : TimerId × ω}
    (h : timers.popExpired now = some (taken, after)) :
    ∃ timer rest, timers.agenda = timer :: rest ∧ timer.deadline <= now ∧
      taken = (timer.id, timer.owner) ∧
      (timer.mode = .oneShot ∧
          after = { timers with agenda := rest, index := forget timer.id timers.index } ∨
        timer.mode = .repeating ∧
          after = { timers with
            agenda := schedule (timer.rearm now) rest
            index := (timer.id, (timer.rearm now).deadline) :: forget timer.id timers.index }) := by
  unfold popExpired at h
  split at h
  · cases h
  · next timer rest hagenda =>
      split at h
      · next due =>
          cases h
          refine ⟨timer, rest, hagenda, due, rfl, ?_⟩
          cases hmode : timer.mode with
          | oneShot => exact .inl ⟨rfl, rfl⟩
          | repeating => exact .inr ⟨rfl, rfl⟩
      · cases h

/-- If the head of the agenda is due, it fires. -/
theorem exists_popExpired_of_due {timers : TimerSet ω} {now : Instant} {timer : ArmedTimer ω}
    {rest : List (ArmedTimer ω)} (hagenda : timers.agenda = timer :: rest)
    (due : timer.deadline <= now) :
    ∃ after, timers.popExpired now = some ((timer.id, timer.owner), after) := by
  have hpop : (timers.popExpired now).map Prod.fst = some (timer.id, timer.owner) := by
    simp [popExpired, hagenda, due]
  obtain ⟨⟨taken, after⟩, hsome, rfl⟩ := Option.map_eq_some_iff.1 hpop
  exact ⟨after, hsome⟩

/-- What is left of an agenda when its head has fired. -/
theorem popExpired_eq_some {timers after : TimerSet ω} {now : Instant} {id : TimerId}
    {owner : ω} (h : timers.popExpired now = some ((id, owner), after)) :
    ∃ timer rest, timers.agenda = timer :: rest ∧ timer.id = id ∧ timer.owner = owner ∧
      timer.deadline <= now ∧
      (timer.mode = .oneShot ∧ after.agenda = rest ∨
        timer.mode = .repeating ∧ after.agenda = schedule (timer.rearm now) rest) := by
  obtain ⟨timer, rest, hagenda, due, htaken, hafter⟩ := popExpired_cases h
  cases htaken
  refine ⟨timer, rest, hagenda, rfl, rfl, due, ?_⟩
  rcases hafter with ⟨hmode, rfl⟩ | ⟨hmode, rfl⟩
  · exact .inl ⟨hmode, rfl⟩
  · exact .inr ⟨hmode, rfl⟩

/-- The timers behind the head stay armed when the head has fired. -/
theorem mem_popExpired_of_mem_tail {timers after : TimerSet ω} {now : Instant}
    {taken : TimerId × ω} (hpop : timers.popExpired now = some (taken, after))
    {timer : ArmedTimer ω} (hmem : timer ∈ timers.agenda.tail) : timer ∈ after.agenda := by
  obtain ⟨head, rest, hagenda, -, -, -, hafter⟩ := popExpired_eq_some hpop
  rw [hagenda, List.tail_cons] at hmem
  rcases hafter with ⟨-, hafter⟩ | ⟨-, hafter⟩ <;> rw [hafter]
  · exact hmem
  · exact mem_schedule.2 (.inr hmem)

/-- A repeating timer stays armed when a timer fires, with its deadline or, if it is the one that
fires, with the next. -/
theorem mem_popExpired_of_repeating {timers after : TimerSet ω} {now : Instant}
    {taken : TimerId × ω} (hpop : timers.popExpired now = some (taken, after))
    {timer : ArmedTimer ω} (hmem : timer ∈ timers.agenda) (repeats : timer.mode = .repeating) :
    timer ∈ after.agenda ∨ timer.rearm now ∈ after.agenda := by
  obtain ⟨head, rest, hagenda, -, -, -, hafter⟩ := popExpired_eq_some hpop
  rw [hagenda] at hmem
  rcases List.mem_cons.1 hmem with rfl | hrest
  · right
    rcases hafter with ⟨hmode, -⟩ | ⟨-, hafter⟩
    · exact absurd (hmode.symm.trans repeats) (by decide)
    · rw [hafter]
      exact mem_schedule.2 (.inl rfl)
  · left
    exact mem_popExpired_of_mem_tail hpop (hagenda ▸ hrest)

theorem ordered_popExpired {timers after : TimerSet ω} {now : Instant}
    {taken : TimerId × ω} (h : timers.Ordered)
    (hpop : timers.popExpired now = some (taken, after)) : after.Ordered := by
  obtain ⟨timer, rest, hagenda, -, -, -, hafter⟩ := popExpired_eq_some hpop
  unfold Ordered at h ⊢
  rw [hagenda] at h
  have hrest := (List.pairwise_cons.1 h).2
  rcases hafter with ⟨-, hafter⟩ | ⟨-, hafter⟩ <;> rw [hafter]
  · exact hrest
  · exact pairwise_schedule hrest

/-- A firing leaves no timer of an owner that had none. -/
theorem exists_owner_of_mem_popExpired {timers after : TimerSet ω} {now : Instant}
    {taken : TimerId × ω} (hpop : timers.popExpired now = some (taken, after))
    {timer : ArmedTimer ω} (hmem : timer ∈ after.agenda) :
    ∃ other ∈ timers.agenda, other.owner = timer.owner := by
  obtain ⟨fired, rest, hagenda, -, -, -, hafter⟩ := popExpired_eq_some hpop
  rw [hagenda]
  rcases hafter with ⟨-, hafter⟩ | ⟨-, hafter⟩ <;> rw [hafter] at hmem
  · exact ⟨timer, List.mem_cons_of_mem _ hmem, rfl⟩
  · rcases mem_schedule.1 hmem with rfl | hmem
    · exact ⟨fired, List.mem_cons_self, rfl⟩
    · exact ⟨timer, List.mem_cons_of_mem _ hmem, rfl⟩

theorem exists_mem_of_popExpired {timers after : TimerSet ω} {now : Instant} {id : TimerId}
    {owner : ω} (hpop : timers.popExpired now = some ((id, owner), after)) :
    ∃ timer ∈ timers.agenda, timer.owner = owner := by
  obtain ⟨timer, rest, hagenda, -, howner, -, -⟩ := popExpired_eq_some hpop
  exact ⟨timer, hagenda ▸ List.mem_cons_self, howner⟩

end TimerSet

end Reactor
