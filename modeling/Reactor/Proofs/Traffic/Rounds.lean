import Reactor.Proofs.Loop.Choice
import Reactor.Proofs.Traffic.Alarm

/-!
# Rounds of the worker

Whatever threads and callbacks have done, the worker chooses from a loop state whose timers are in
good order.  So in each round it fires the first of the timers that are due, takes an event only
if none is due, and falls asleep only where there is nothing to do before its deadline.
-/

namespace Reactor

namespace Traffic

variable {ε : Type} {traffic : Traffic ε} {past : List (Move ε × Answer ε)} {number : Nat}
  {now : Instant} {handler : HandlerId}

theorem Runs.loopState_sound (runs : Runs past traffic) : traffic.loop.toLoopState.Sound :=
  ⟨runs.sound.agenda, runs.indexed⟩

/-- A round fires the first of the timers that are due. -/
theorem Runs.first_of_fired (runs : Runs past traffic) {id : TimerId}
    (round : past[number]? = some (.round now, .round (.deliver handler (.timer id)))) :
    ∃ before timer, Runs (past.take number) before ∧ before.loop.timers.IsFirst now timer ∧
      timer.id = id ∧ timer.owner = handler := by
  obtain ⟨before, next, hbefore, step⟩ := runs.exists_before round
  have sound := hbefore.loopState_sound
  cases step with
  | fire choosing untold due =>
      obtain ⟨timer, first, hid, howner⟩ := sound.indexed.isFirst_of_popExpired sound.ordered due
      exact ⟨before, timer, hbefore, first, hid, howner⟩

/-- A round takes an event only if no timer of any handler is due. -/
theorem Runs.undue_of_delivered (runs : Runs past traffic) {event : ε}
    (round : past[number]? = some (.round now, .round (.deliver handler (.event event)))) :
    ∃ before, Runs (past.take number) before ∧ before.loop.queue.head? = some ⟨handler, event⟩ ∧
      ∀ timer ∈ before.loop.timers.agenda, now < timer.deadline := by
  obtain ⟨before, next, hbefore, step⟩ := runs.exists_before round
  have sound := hbefore.loopState_sound
  cases step with
  | deliver choosing untold undue oldest =>
      refine ⟨before, hbefore, by rw [oldest]; rfl, ?_⟩
      exact TimerSet.expired_eq_nil_iff.1 (sound.ordered.popExpired_eq_none_iff.1 undue)

/-- The worker falls asleep only if there is nothing to do, and until a deadline that has not
come. -/
theorem Runs.rest_of_asleep (runs : Runs past traffic)
    (round : past[number]? = some (.round now, .round .sleep)) :
    ∃ before, Runs (past.take number) before ∧ before.loop.quit = false ∧
      before.loop.queue = [] ∧ ∀ timer ∈ before.loop.timers.agenda, now < timer.deadline := by
  obtain ⟨before, next, hbefore, step⟩ := runs.exists_before round
  have sound := hbefore.loopState_sound
  cases step with
  | sleep choosing untold undue empty noFlag =>
      refine ⟨before, hbefore, untold, empty, ?_⟩
      exact TimerSet.expired_eq_nil_iff.1 (sound.ordered.popExpired_eq_none_iff.1 undue)

end Traffic

end Reactor
