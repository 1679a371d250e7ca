import Reactor.Proofs.Timer.Roster

/-!
# The rank of a timer

The rank of an armed timer is the number of timers that come before it.  Once its
deadline is past, no call raises its rank: what is armed from then on, and what is
armed again, comes after it.  Each firing takes one of the timers before it, or the
timer itself.  So a timer is taken after as many firings as its rank says, whatever
else is armed in the meantime, and however often.
-/

namespace Reactor

/-! ## Calls and one timer -/

namespace TimerCall

variable {ω : Type}

/-- The reading of the clock at which a call is made, if it reads the clock. -/
def reading? : TimerCall ω -> Option Instant
  | .insert _ now _ _ | .popExpired now => some now
  | _ => none

/-- Whether a call disarms a timer, should the timer be armed. -/
def disarms (timer : ArmedTimer ω) : TimerCall ω -> Bool
  | .erase id => id = timer.id
  | .eraseWhere p => p timer.owner
  | .clear => true
  | _ => false

def pops : TimerCall ω -> Bool
  | .popExpired _ => true
  | _ => false

end TimerCall

/-- The timer that a call has fired, with its owner. -/
def TimerAnswer.taken? {ω : Type} : TimerAnswer ω -> Option (TimerId × ω)
  | .fired taken => taken
  | _ => none

theorem ArmedTimer.not_before_of_lt {ω : Type} {timer other : ArmedTimer ω}
    (h : timer.deadline < other.deadline) : ¬ other.before timer := by
  rw [Instant.lt_def] at h
  rw [before_iff]
  omega

namespace TimerSet

variable {ω : Type} {timers : TimerSet ω} {roster : Roster ω} {timer : ArmedTimer ω}
  {call : TimerCall ω}

/-- The armed timers that come before a timer. -/
def ahead (timers : TimerSet ω) (timer : ArmedTimer ω) : List (ArmedTimer ω) :=
  timers.agenda.filter fun other => other.before timer

def rank (timers : TimerSet ω) (timer : ArmedTimer ω) : Nat :=
  (timers.ahead timer).length

/-- A call takes a timer out of the set: it disarms the timer, or fires it. -/
def Departs (timers : TimerSet ω) (timer : ArmedTimer ω) (call : TimerCall ω) : Prop :=
  call.disarms timer = true ∨
    (timers.perform call).1.taken? = some (timer.id, timer.owner)

/-! ## One call -/

/-- What counts from a reading after the deadline of a timer does not come before the timer. -/
theorem filter_schedule_of_late {other : ArmedTimer ω} {now : Instant}
    {agenda : List (ArmedTimer ω)} (late : timer.deadline < now) (counted : now <= other.deadline) :
    ((schedule other agenda).filter fun other => other.before timer) =
      agenda.filter fun other => other.before timer := by
  have behind : timer.deadline < other.deadline := Nat.lt_of_lt_of_le late counted
  apply filter_schedule_of_not
  exact decide_eq_false (ArmedTimer.not_before_of_lt behind)

/-- What is left before a timer when the head of the agenda has fired. -/
theorem ahead_popExpired {after : TimerSet ω} {now : Instant} {taken : TimerId × ω}
    (late : timer.deadline < now) (hpop : timers.popExpired now = some (taken, after)) :
    after.ahead timer = timers.agenda.tail.filter fun other => other.before timer := by
  obtain ⟨head, rest, hagenda, -, -, hafter⟩ := popExpired_cases hpop
  rw [hagenda, List.tail_cons]
  rcases hafter with ⟨-, rfl⟩ | ⟨-, rfl⟩
  · rfl
  · exact filter_schedule_of_late late (Instant.le_deadlineAfter now head.interval)

theorem perform_popExpired {after : TimerSet ω} {now : Instant} {taken : TimerId × ω}
    (hpop : timers.popExpired now = some (taken, after)) :
    timers.perform (.popExpired now) = (.fired (some taken), after) := by
  simp only [perform, hpop]

/-- No call puts a timer before one whose deadline is past. -/
theorem ahead_perform_sublist (late : ∀ now, call.reading? = some now -> timer.deadline < now) :
    ((timers.perform call).2.ahead timer).Sublist (timers.ahead timer) := by
  cases call with
  | insert owner now interval mode =>
      have counted := Instant.le_deadlineAfter now interval
      have same : (timers.insert owner now interval mode).2.2.ahead timer = timers.ahead timer :=
        filter_schedule_of_late (late now rfl) counted
      exact same ▸ List.Sublist.refl _
  | erase id => exact (agenda_erase_sublist timers id).filter _
  | eraseWhere p =>
      have hsub : (timers.eraseWhere p).2.agenda.Sublist timers.agenda := List.filter_sublist
      exact hsub.filter _
  | popExpired now =>
      cases hpop : timers.popExpired now with
      | none => simp [perform, hpop]
      | some fired =>
          rw [perform_popExpired hpop, ahead_popExpired (late now rfl) hpop]
          exact (List.tail_sublist timers.agenda).filter _
  | clear => exact List.nil_sublist _
  | owner id => exact List.Sublist.refl _
  | size => exact List.Sublist.refl _
  | nextDeadline => exact List.Sublist.refl _
  | isEmpty => exact List.Sublist.refl _

/-- While a timer is armed whose deadline is past, there is a timer to take. -/
theorem exists_popExpired_of_mem (ordered : timers.Ordered) {now : Instant}
    (armed : timer ∈ timers.agenda) (due : timer.deadline <= now) :
    ∃ head rest after, timers.agenda = head :: rest ∧
      timers.popExpired now = some ((head.id, head.owner), after) := by
  cases hagenda : timers.agenda with
  | nil =>
      rw [hagenda] at armed
      exact absurd armed List.not_mem_nil
  | cons head rest =>
      have hle := ArmedTimer.deadline_le_of_not_before (ordered.not_before_head hagenda armed)
      have hdue : head.deadline <= now := Nat.le_trans hle due
      obtain ⟨after, hpop⟩ := exists_popExpired_of_due hagenda hdue
      exact ⟨head, rest, after, rfl, hpop⟩

section Refines

variable (h : timers.Refines roster)
include h

/-- A firing takes the timer itself, or one of those before it. -/
theorem Refines.departs_or_rank_lt {now : Instant} (armed : timer ∈ timers.agenda)
    (late : timer.deadline < now) :
    timers.Departs timer (.popExpired now) ∨
      (timer ∈ (timers.perform (.popExpired now)).2.agenda ∧
        (timers.perform (.popExpired now)).2.rank timer + 1 ≤ timers.rank timer) := by
  obtain ⟨head, rest, after, hagenda, hpop⟩ :=
    exists_popExpired_of_mem h.ordered armed (Nat.le_of_lt late)
  have hahead := ahead_popExpired late hpop
  unfold Departs
  rw [perform_popExpired hpop]
  by_cases same : timer = head
  · left
    right
    rw [same]
    rfl
  · right
    have hmem : timer ∈ rest := by
      rw [hagenda] at armed
      exact (List.mem_cons.1 armed).resolve_left same
    have hbefore : head.before timer := by
      have pairwise := h.indexed.pairwise_before h.ordered
      rw [hagenda] at pairwise
      exact List.rel_of_pairwise_cons pairwise hmem
    constructor
    · exact mem_popExpired_of_mem_tail hpop (hagenda ▸ hmem)
    · have hhead : timers.ahead timer = head :: rest.filter fun other => other.before timer := by
        unfold ahead
        rw [hagenda, List.filter_cons, if_pos (decide_eq_true hbefore)]
      rw [hagenda, List.tail_cons] at hahead
      unfold rank
      rw [hahead, hhead]
      exact Nat.le_of_eq List.length_cons.symm

/-- A call takes the timer out of the set, or leaves it armed with no more timers before it,
and with one fewer if the call is a firing. -/
theorem Refines.departs_or_waits (armed : timer ∈ timers.agenda)
    (late : ∀ now, call.reading? = some now -> timer.deadline < now) :
    timers.Departs timer call ∨
      (timer ∈ (timers.perform call).2.agenda ∧
        (timers.perform call).2.rank timer + (if call.pops then 1 else 0) ≤
          timers.rank timer) := by
  have hrank : (timers.perform call).2.rank timer ≤ timers.rank timer :=
    (ahead_perform_sublist late).length_le
  cases call with
  | popExpired now => exact h.departs_or_rank_lt armed (late now rfl)
  | insert owner now interval mode =>
      exact .inr ⟨mem_agenda_insert.2 (.inr armed), hrank⟩
  | erase id =>
      by_cases same : id = timer.id
      · exact .inl (.inl (decide_eq_true same))
      · have hmem : timer ∈ (timers.erase id).2.agenda := by
          rw [h.indexed.erase_eq, List.mem_filter]
          exact ⟨armed, decide_eq_true (Ne.symm same)⟩
        exact .inr ⟨hmem, hrank⟩
  | eraseWhere p =>
      by_cases gone : p timer.owner = true
      · exact .inl (.inl gone)
      · have hmem : timer ∈ (timers.eraseWhere p).2.agenda :=
          List.mem_filter.2 ⟨armed, by simpa using gone⟩
        exact .inr ⟨hmem, hrank⟩
  | clear => exact .inl (.inl rfl)
  | owner id => exact .inr ⟨armed, hrank⟩
  | size => exact .inr ⟨armed, hrank⟩
  | nextDeadline => exact .inr ⟨armed, hrank⟩
  | isEmpty => exact .inr ⟨armed, hrank⟩

end Refines

/-! ## Sequences of calls -/

/-- What becomes of an armed timer in a sequence of calls that are made after its deadline. -/
structure Unstarved (timers : TimerSet ω) (timer : ArmedTimer ω) (calls : List (TimerCall ω)) :
    Prop where
  /-- Whoever is before the timer afterwards was there at the beginning, with the deadline it
  has, in the same order. -/
  ahead : ((timers.run calls).2.ahead timer).Sublist (timers.ahead timer)
  /-- A timer that is not disarmed and does not fire stays armed as it is, and each firing has
  lowered its rank. -/
  waits : (∀ call ∈ calls, call.disarms timer = false) ->
    (∀ answer ∈ (timers.run calls).1, answer.taken? ≠ some (timer.id, timer.owner)) ->
    timer ∈ (timers.run calls).2.agenda ∧
      (timers.run calls).2.rank timer + calls.countP (·.pops) ≤ timers.rank timer
  /-- If there are more firings than the rank of the timer, one of the calls finds the timer
  armed and disarms it or fires it, and no more firings than the rank go before that call. -/
  served : timers.rank timer < calls.countP (·.pops) ->
    ∃ front call back, calls = front ++ call :: back ∧
      front.countP (·.pops) ≤ timers.rank timer ∧
      timer ∈ (timers.run front).2.agenda ∧ (timers.run front).2.Departs timer call

section Refines

variable {calls : List (TimerCall ω)}

theorem ahead_run_sublist
    (late : ∀ call ∈ calls, ∀ now, call.reading? = some now -> timer.deadline < now) :
    ((timers.run calls).2.ahead timer).Sublist (timers.ahead timer) := by
  induction calls generalizing timers with
  | nil => exact List.Sublist.refl _
  | cons call rest ih =>
      have hfirst : ((timers.perform call).2.ahead timer).Sublist (timers.ahead timer) :=
        ahead_perform_sublist (late call (.head _))
      have hrest := @ih (timers.perform call).2 fun other hmem => late other (.tail _ hmem)
      exact hrest.trans hfirst

theorem Refines.waits (h : timers.Refines roster) (armed : timer ∈ timers.agenda)
    (late : ∀ call ∈ calls, ∀ now, call.reading? = some now -> timer.deadline < now)
    (kept : ∀ call ∈ calls, call.disarms timer = false)
    (silent : ∀ answer ∈ (timers.run calls).1, answer.taken? ≠ some (timer.id, timer.owner)) :
    timer ∈ (timers.run calls).2.agenda ∧
      (timers.run calls).2.rank timer + calls.countP (·.pops) ≤ timers.rank timer := by
  induction calls generalizing timers roster with
  | nil => exact ⟨armed, Nat.le_refl _⟩
  | cons call rest ih =>
      have stays : ¬ timers.Departs timer call := by
        rintro (disarmed | fired)
        · exact absurd (disarmed.symm.trans (kept call (.head _))) (by decide)
        · exact silent _ (.head _) fired
      obtain ⟨armed', hrank⟩ :=
        (h.departs_or_waits armed (late call (.head _))).resolve_left stays
      obtain ⟨hmem, hle⟩ := ih (h.perform call).2 armed'
        (fun other hmem => late other (.tail _ hmem))
        (fun other hmem => kept other (.tail _ hmem))
        (fun answer hmem => silent answer (.tail _ hmem))
      refine ⟨hmem, ?_⟩
      rw [List.countP_cons]
      show ((timers.perform call).2.run rest).2.rank timer + _ ≤ _
      omega

theorem Refines.served (h : timers.Refines roster) (armed : timer ∈ timers.agenda)
    (late : ∀ call ∈ calls, ∀ now, call.reading? = some now -> timer.deadline < now)
    (enough : timers.rank timer < calls.countP (·.pops)) :
    ∃ front call back, calls = front ++ call :: back ∧
      front.countP (·.pops) ≤ timers.rank timer ∧
      timer ∈ (timers.run front).2.agenda ∧ (timers.run front).2.Departs timer call := by
  induction calls generalizing timers roster with
  | nil => simp at enough
  | cons call rest ih =>
      rw [List.countP_cons] at enough
      rcases h.departs_or_waits armed (late call (.head _)) with departs | ⟨armed', hrank⟩
      · exact ⟨[], call, rest, rfl, Nat.zero_le _, armed, departs⟩
      · have enough' : (timers.perform call).2.rank timer < rest.countP (·.pops) := by omega
        obtain ⟨front, other, back, rfl, hfront, hmem, departs⟩ :=
          ih (h.perform call).2 armed' (fun other hmem => late other (.tail _ hmem)) enough'
        refine ⟨call :: front, other, back, rfl, ?_, hmem, departs⟩
        rw [List.countP_cons]
        omega

end Refines

/-- Once its deadline is past, a timer waits only for the timers that were before it then. -/
theorem no_timer_starves (calls later : List (TimerCall ω))
    (armed : timer ∈ ((empty : TimerSet ω).run calls).2.agenda)
    (late : ∀ call ∈ later, ∀ now, call.reading? = some now -> timer.deadline < now) :
    Unstarved ((empty : TimerSet ω).run calls).2 timer later := by
  have refines := (refines_empty.run calls).2
  exact ⟨ahead_run_sublist late, refines.waits armed late, refines.served armed late⟩

/-- A timer with two others before it fires third, though both of them are due again at once and
a fourth one that is always due is armed. -/
theorem timer_fires_after_two_others :
    ∃ (calls later : List (TimerCall Nat)) (timer : ArmedTimer Nat),
      timer ∈ ((empty : TimerSet Nat).run calls).2.agenda ∧ timer.id = ⟨2⟩ ∧
      ((empty : TimerSet Nat).run calls).2.rank timer = 2 ∧
      (((empty : TimerSet Nat).run calls).2.run later).1.filterMap (·.taken?) =
        [(⟨1⟩, 0), (⟨3⟩, 2), (⟨2⟩, 1)] ∧
      Unstarved ((empty : TimerSet Nat).run calls).2 timer later := by
  let calls : List (TimerCall Nat) :=
    [.insert 0 .first .zero .repeating, .insert 1 .first ⟨5, by decide⟩ .oneShot,
      .insert 2 .first .zero .repeating]
  let later : List (TimerCall Nat) :=
    [.popExpired ⟨6, by decide⟩, .insert 3 ⟨6, by decide⟩ .zero .repeating,
      .popExpired ⟨7, by decide⟩, .popExpired ⟨7, by decide⟩]
  have check : ((empty : TimerSet Nat).run calls).2.agenda.any (fun timer =>
      timer.id = ⟨2⟩ ∧ timer.deadline.nanos = 5 ∧
        ((empty : TimerSet Nat).run calls).2.rank timer = 2) = true := by
    decide +kernel
  obtain ⟨timer, armed, htimer⟩ := List.any_eq_true.1 check
  obtain ⟨hid, hdeadline, hrank⟩ := of_decide_eq_true htimer
  have late : ∀ call ∈ later, ∀ now, call.reading? = some now -> timer.deadline < now := by
    intro call hmem now hreading
    have all : later.all (fun call => call.reading?.all (5 < ·.nanos)) = true := by decide
    have hlate := List.all_eq_true.1 all call hmem
    rw [hreading] at hlate
    rw [Instant.lt_def, hdeadline]
    exact of_decide_eq_true hlate
  have fired : (((empty : TimerSet Nat).run calls).2.run later).1.filterMap (·.taken?) =
      [(⟨1⟩, 0), (⟨3⟩, 2), (⟨2⟩, 1)] := by
    decide +kernel
  exact ⟨calls, later, timer, armed, hid, hrank, fired, no_timer_starves calls later armed late⟩

end TimerSet

end Reactor
