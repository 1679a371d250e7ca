import Reactor.Proofs.Timer.Clamp

/-!
# Taking all that is due

At one reading of the clock, timers are taken until none is due.  A repeating timer
goes back into the set while this goes on, but with a later deadline, unless its
interval is empty or the clock has come to its end.  So the taking ends, and each
timer that was due at the beginning is taken once, in the order of the deadlines.
-/

namespace Reactor

namespace TimerSet

variable {ω : Type} {timers middle after : TimerSet ω} {roster : Roster ω} {now : Instant}
  {timer : ArmedTimer ω} {rest : List (ArmedTimer ω)} {taken : List (TimerId × ω)}

/-- The timers that are due at a reading, in the order in which they are due. -/
def expired (timers : TimerSet ω) (now : Instant) : List (ArmedTimer ω) :=
  timers.agenda.filter fun timer => timer.deadline <= now

def unexpired (timers : TimerSet ω) (now : Instant) : List (ArmedTimer ω) :=
  timers.agenda.filter fun timer => now < timer.deadline

/-- Timers are taken at one reading until none is due. -/
inductive Drains (now : Instant) : TimerSet ω -> List (TimerId × ω) -> TimerSet ω -> Prop
  | done {timers : TimerSet ω} (undue : timers.popExpired now = none) : Drains now timers [] timers
  | take {timers middle after : TimerSet ω} {first : TimerId × ω} {others : List (TimerId × ω)}
      (due : timers.popExpired now = some (first, middle)) (more : Drains now middle others after) :
      Drains now timers (first :: others) after

/-- A limit on the number of timers to take has no effect where no more are due. -/
theorem Drains.popAllExpired_eq (drains : Drains now timers taken after) {limit : Nat}
    (enough : taken.length ≤ limit) : timers.popAllExpired now limit = (taken, after) := by
  induction drains generalizing limit with
  | done undue =>
      cases limit with
      | zero => rfl
      | succ limit => simp only [popAllExpired, undue]
  | take due more ih =>
      cases limit with
      | zero => simp at enough
      | succ limit =>
          rw [List.length_cons] at enough
          have hmore := ih (Nat.le_of_succ_le_succ enough)
          simp only [popAllExpired, due, hmore]

/-! ## What is due -/

theorem not_expired_iff : ¬ timer.deadline <= now ↔ now < timer.deadline :=
  Nat.not_le

theorem expired_eq_nil_iff :
    timers.expired now = [] ↔ ∀ timer ∈ timers.agenda, now < timer.deadline := by
  unfold expired
  rw [List.filter_eq_nil_iff]
  simp only [decide_eq_true_eq, not_expired_iff]

theorem expired_of_agenda_cons (hagenda : timers.agenda = timer :: rest)
    (due : timer.deadline <= now) :
    timers.expired now = timer :: rest.filter fun timer => timer.deadline <= now := by
  unfold expired
  rw [hagenda, List.filter_cons, if_pos (decide_eq_true due)]

/-- If the head of the agenda is not due, no timer is. -/
theorem Ordered.expired_eq_nil (ordered : timers.Ordered) (hagenda : timers.agenda = timer :: rest)
    (undue : now < timer.deadline) : timers.expired now = [] := by
  apply expired_eq_nil_iff.2
  intro other hmem
  have hle := ArmedTimer.deadline_le_of_not_before (ordered.not_before_head hagenda hmem)
  exact Nat.lt_of_lt_of_le undue hle

theorem Ordered.popExpired_eq_none_iff (ordered : timers.Ordered) :
    timers.popExpired now = none ↔ timers.expired now = [] := by
  cases hagenda : timers.agenda with
  | nil => simp [popExpired, expired, hagenda]
  | cons head rest =>
      by_cases due : head.deadline <= now
      · simp [popExpired, expired_of_agenda_cons hagenda due, hagenda, due]
      · have hnil := ordered.expired_eq_nil hagenda (not_expired_iff.1 due)
        simp [popExpired, hnil, hagenda, due]

theorem unexpired_eq_agenda (hnil : timers.expired now = []) :
    timers.unexpired now = timers.agenda := by
  apply List.filter_eq_self.2
  intro timer hmem
  exact decide_eq_true (expired_eq_nil_iff.1 hnil timer hmem)

/-- The first of the timers that are due is the head of the agenda. -/
theorem Ordered.agenda_of_expired_cons (ordered : timers.Ordered) {due : List (ArmedTimer ω)}
    (hexpired : timers.expired now = timer :: due) :
    ∃ rest, timers.agenda = timer :: rest ∧ timer.deadline <= now ∧
      due = rest.filter fun timer => timer.deadline <= now := by
  cases hagenda : timers.agenda with
  | nil => simp [expired, hagenda] at hexpired
  | cons head rest =>
      by_cases hdue : head.deadline <= now
      · rw [expired_of_agenda_cons hagenda hdue] at hexpired
        cases hexpired
        exact ⟨rest, rfl, hdue, rfl⟩
      · rw [ordered.expired_eq_nil hagenda (not_expired_iff.1 hdue)] at hexpired
        cases hexpired

/-! ## One timer -/

/-- A firing takes the first of the timers that are due.  It is armed again, if at all, among
those that are not due. -/
theorem exists_middle_of_due (hagenda : timers.agenda = timer :: rest)
    (due : timer.deadline <= now)
    (moves : ∀ again, timer.again? now = some again -> now < again.deadline) :
    ∃ middle, timers.popExpired now = some ((timer.id, timer.owner), middle) ∧
      middle.expired now = rest.filter (fun timer => timer.deadline <= now) ∧
      (middle.unexpired now).Perm (timers.unexpired now ++ (timer.again? now).toList) ∧
      middle.issued = timers.issued := by
  have hunexpired : timers.unexpired now = rest.filter fun timer => now < timer.deadline := by
    have early : ¬ now < timer.deadline := Nat.not_lt.2 due
    unfold unexpired
    rw [hagenda, List.filter_cons, if_neg (by simpa using early)]
  obtain ⟨middle, hpop⟩ := exists_popExpired_of_due hagenda due
  obtain ⟨head, rest', hagenda', -, -, hmiddle⟩ := popExpired_cases hpop
  rw [hagenda] at hagenda'
  cases hagenda'
  refine ⟨middle, hpop, ?_⟩
  rcases hmiddle with ⟨hmode, rfl⟩ | ⟨hmode, rfl⟩
  · have hnone : timer.again? now = none := by simp [ArmedTimer.again?, hmode]
    refine ⟨rfl, ?_, rfl⟩
    rw [hunexpired, hnone, Option.toList_none, List.append_nil]
    exact List.Perm.refl _
  · have hsome : timer.again? now = some (timer.rearm now) := by simp [ArmedTimer.again?, hmode]
    have later := moves _ hsome
    have undue : decide ((timer.rearm now).deadline <= now) = false :=
      decide_eq_false (not_expired_iff.2 later)
    refine ⟨filter_schedule_of_not undue, ?_, rfl⟩
    rw [hunexpired, hsome, Option.toList_some]
    have hperm := (perm_schedule (timer.rearm now) rest).filter fun timer =>
      decide (now < timer.deadline)
    rw [List.filter_cons, if_pos (decide_eq_true later)] at hperm
    exact hperm.trans (List.perm_append_singleton _ _).symm

/-! ## All timers -/

theorem Refines.exists_drains (h : timers.Refines roster)
    (moves : ∀ timer ∈ timers.expired now, ∀ again, timer.again? now = some again ->
      now < again.deadline) :
    ∃ after last, Drains now timers ((timers.expired now).map fun timer => (timer.id, timer.owner))
        after ∧
      after.Refines last ∧
      after.agenda.Perm (timers.unexpired now ++ (timers.expired now).filterMap (·.again? now)) ∧
      after.issued = timers.issued := by
  generalize hexpired : timers.expired now = due at moves
  induction due generalizing timers roster with
  | nil =>
      have undue := h.ordered.popExpired_eq_none_iff.2 hexpired
      refine ⟨timers, roster, .done undue, h, ?_, rfl⟩
      rw [unexpired_eq_agenda hexpired, List.filterMap_nil, List.append_nil]
  | cons timer due ih =>
      obtain ⟨rest, hagenda, hdue, rfl⟩ := h.ordered.agenda_of_expired_cons hexpired
      obtain ⟨middle, hpop, hmiddle, hperm, hissued⟩ :=
        exists_middle_of_due hagenda hdue (moves timer (.head _))
      obtain ⟨after, last, drains, refines, hleft, hissued'⟩ :=
        ih (h.popExpired hpop).2 hmiddle fun other hmem => moves other (.tail _ hmem)
      refine ⟨after, last, .take hpop drains, refines, ?_, hissued'.trans hissued⟩
      have hagain := hleft.trans (hperm.append_right _)
      rw [List.append_assoc] at hagain
      rw [List.filterMap_cons]
      cases hmode : timer.again? now with
      | none => simpa [hmode] using hagain
      | some again => simpa [hmode] using hagain

/-- What has been taken, and what is left, when no timer is due any more. -/
structure Drained (timers : TimerSet ω) (now : Instant) (after : TimerSet ω) : Prop where
  /-- The taking comes to an end when it has taken the timers that were due, and no more. -/
  drains : Drains now timers ((timers.expired now).map fun timer => (timer.id, timer.owner)) after
  /-- Each of them comes before those that are taken after it. -/
  order : (timers.expired now).Pairwise ArmedTimer.before
  limited : ∀ limit, (timers.expired now).length ≤ limit ->
    timers.popAllExpired now limit =
      ((timers.expired now).map fun timer => (timer.id, timer.owner), after)
  /-- The timers that were not due are as they were, and those that repeat are armed again. -/
  left : after.agenda.Perm
    (timers.unexpired now ++ (timers.expired now).filterMap (·.again? now))
  index : after.index.Perm (after.agenda.map entryOf)
  issued : after.issued = timers.issued
  rearmed : ∀ timer ∈ timers.expired now, ∀ again, timer.again? now = some again ->
    again.id = timer.id ∧ again.toTimer = timer.toTimer ∧ now < again.deadline

theorem drain_takes_each_due_timer_once (calls : List (TimerCall ω)) (inner : now < .last)
    (lasting : ∀ timer ∈ ((empty : TimerSet ω).run calls).2.agenda, timer.deadline <= now ->
      timer.mode = .repeating -> timer.interval ≠ .zero) :
    ∃ after, Drained ((empty : TimerSet ω).run calls).2 now after := by
  have refines := (refines_empty.run calls).2
  generalize ((empty : TimerSet ω).run calls).2 = timers at refines lasting
  have rearmed : ∀ timer ∈ timers.expired now, ∀ again, timer.again? now = some again ->
      again.id = timer.id ∧ again.toTimer = timer.toTimer ∧ now < again.deadline := by
    intro timer hmem again hagain
    obtain ⟨hmem, hdue⟩ := List.mem_filter.1 hmem
    unfold ArmedTimer.again? at hagain
    cases hmode : timer.mode with
    | oneShot => simp [hmode] at hagain
    | repeating =>
        simp only [hmode, Option.some.injEq] at hagain
        subst hagain
        have hinterval := lasting timer hmem (of_decide_eq_true hdue) hmode
        exact ⟨rfl, rfl, Instant.lt_deadlineAfter inner hinterval⟩
  obtain ⟨after, last, drains, refines', left, issued⟩ :=
    refines.exists_drains fun timer hmem again hagain => (rearmed timer hmem again hagain).2.2
  refine ⟨after, drains, ?_, ?_, left, refines'.indexed.entries, issued, rearmed⟩
  · exact (refines.indexed.pairwise_before refines.ordered).sublist List.filter_sublist
  · intro limit enough
    apply drains.popAllExpired_eq
    rwa [List.length_map]

/-- Of four timers three are due, two of them at the same time.  Two of the three repeat. -/
theorem drain_takes_three_of_four_timers :
    ∃ (calls : List (TimerCall Nat)) (now : Instant) (after : TimerSet Nat),
      (((empty : TimerSet Nat).run calls).2.expired now).map (fun timer => (timer.id, timer.owner)) =
        [(⟨2⟩, 1), (⟨1⟩, 0), (⟨3⟩, 2)] ∧
      (((empty : TimerSet Nat).run calls).2.popAllExpired now 9).2.agenda.map
          (fun timer => (timer.id, timer.deadline.nanos)) =
        [(⟨2⟩, 35), (⟨3⟩, 40), (⟨4⟩, 50)] ∧
      Drained ((empty : TimerSet Nat).run calls).2 now after := by
  let calls : List (TimerCall Nat) :=
    [.insert 0 .first ⟨10, by decide⟩ .oneShot, .insert 1 .first ⟨5, by decide⟩ .repeating,
      .insert 2 .first ⟨10, by decide⟩ .repeating, .insert 3 .first ⟨50, by decide⟩ .oneShot]
  let now : Instant := ⟨30, by decide⟩
  have lasting : ∀ timer ∈ ((empty : TimerSet Nat).run calls).2.agenda, timer.deadline <= now ->
      timer.mode = .repeating -> timer.interval ≠ .zero := by
    decide +kernel
  obtain ⟨after, drained⟩ := drain_takes_each_due_timer_once calls (by decide) lasting
  exact ⟨calls, now, after, by decide +kernel, by decide +kernel, drained⟩

end TimerSet

end Reactor
