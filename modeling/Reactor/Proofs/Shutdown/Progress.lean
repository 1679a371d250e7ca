import Reactor.Proofs.Shutdown.Teardown
import Reactor.Proofs.Traffic.Sleep

/-!
# A shutdown comes to its end

The worker of a loop that has been told to quit goes on until it has exited, and
the calls that stop the loop until they have ended.  There is always one of them
that can go on without a failure, and each step of theirs brings the end nearer.
Whatever else happens in between puts it off only if it is another such call, and
then by the two steps that this call takes.
-/

namespace Reactor

/-- How many steps a worker can make at most that has been told to quit. -/
def WorkerPhase.stepsLeft {ε : Type} (queued released : Nat) : WorkerPhase ε -> Nat
  | .asleep _ | .calling _ => queued + 3
  | .choosing => queued + 2
  | .leaving discarded => discarded.length - released + 1
  | .exited => 0

theorem WorkerPhase.stepsLeft_mono {ε : Type} {queued queued' : Nat} (fewer : queued <= queued')
    (released : Nat) (phase : WorkerPhase ε) :
    phase.stepsLeft queued released <= phase.stepsLeft queued' released := by
  cases phase with
  | asleep | calling => exact Nat.add_le_add_right fewer 3
  | choosing => exact Nat.add_le_add_right fewer 2
  | leaving | exited => exact Nat.le_refl _

namespace Shutdown

variable {ε : Type} {state next last : Shutdown ε} {move : ShutdownMove ε}
  {answer : ShutdownAnswer ε} {past later : List (ShutdownMove ε × ShutdownAnswer ε)}

/-- Whether a move belongs to the worker or to a call that stops the loop, and is no failure. -/
def advancing : ShutdownMove ε -> Bool
  | .traffic (.round _) | .traffic (.wake _) | .take _ | .collect | .exit => true
  | .traffic (.endCallback failure) | .release failure => failure.isNone
  | _ => false

/-- The thread of a call that stops the loop and begins in a step, and whether it is unwinding. -/
def stops : ShutdownMove ε × ShutdownAnswer ε -> Option (ThreadId × Bool)
  | (.stop thread unwinding _, _) => some (thread, unwinding)
  | _ => none

/-- The worker or a call that stops the loop can go on. -/
def CanAdvance (state : Shutdown ε) : Prop :=
  ∃ move, advancing move = true ∧ (state.move? move).isSome = true

/-- The worker has exited, and all calls that stop the loop have ended. -/
structure Done (state : Shutdown ε) : Prop where
  exited : state.eventLoop.phase = .exited
  ended : ∀ call ∈ state.calls, call.outcome ≠ none

def workerLeft (state : Shutdown ε) : Nat :=
  state.eventLoop.phase.stepsLeft state.loop.queue.length state.released.length

/-- A call takes the object of the worker thread in one step, and joins in another one. -/
def callsLeft (state : Shutdown ε) : Nat :=
  2 * (pending state.calls).length + if state.holder.isNone then 1 else 0

/-- A bound for the steps that the worker and the calls have before them. -/
def stepsLeft (state : Shutdown ε) : Nat :=
  state.workerLeft + state.callsLeft

/-! ## Each step brings the end nearer -/

theorem callsLeft_finish {number : Nat} {call : StopCall}
    (hcall : state.calls[number]? = some call) (unended : call.outcome = none) :
    (state.finish number call).2.callsLeft < state.callsLeft := by
  let outcome := StopOutcome.of state.eventLoop.join.1.join call.unwinding
  have fewer := (perm_pending hcall unended outcome).length_eq
  have left : (state.finish number call).2.callsLeft =
      2 * (pending (state.calls.set number { call with outcome := some outcome })).length + 1 := rfl
  rw [left, callsLeft, fewer, List.length_cons]
  omega

/-- Told to quit, the worker neither begins a callback nor falls asleep. -/
theorem workerLeft_traffic {move : Move ε} {answer : Answer ε} {after : Traffic ε}
    (step : Traffic.Step state.traffic move answer after) (told : state.loop.quit = true)
    (moves : advancing (.traffic move) = true) :
    ({ state with traffic := after } : Shutdown ε).workerLeft < state.workerLeft := by
  have busy : state.loop.quit ≠ false := by
    rw [told]
    decide
  cases step with
  | leave choosing =>
      rw [workerLeft, workerLeft, choosing]
      show state.loop.queue.length - state.released.length + 1 < state.loop.queue.length + 2
      omega
  | fire choosing untold => exact absurd untold busy
  | deliver choosing untold => exact absurd untold busy
  | again choosing flag untold => exact absurd untold busy
  | sleep choosing untold => exact absurd untold busy
  | wake sleeps =>
      rw [workerLeft, workerLeft, sleeps]
      exact Nat.lt_succ_self _
  | endCallback calls =>
      rw [workerLeft, workerLeft, calls]
      exact Nat.lt_succ_self _
  | failCallback => exact nomatch moves
  | _ => exact nomatch moves

/-- Told to quit, the worker is not put off by what others do. -/
theorem workerLeft_traffic_le {move : Move ε} {answer : Answer ε} {after : Traffic ε}
    (step : Traffic.Step state.traffic move answer after) (ordinary : move.isOrdinary = true)
    (told : state.loop.quit = true) :
    ({ state with traffic := after } : Shutdown ε).workerLeft <= state.workerLeft := by
  have stays : after.eventLoop.phase = state.eventLoop.phase ->
      ({ state with traffic := after } : Shutdown ε).workerLeft <= state.workerLeft := by
    intro same
    rw [workerLeft, workerLeft, eventLoop, same]
    exact WorkerPhase.stepsLeft_mono (step.queue_sublist told).length_le _ _
  by_cases moves : advancing (.traffic move) = true
  · exact Nat.le_of_lt (workerLeft_traffic step told moves)
  cases step with
  | leave | fire | deliver | again | sleep | wake | endCallback => exact absurd rfl moves
  | failCallback calls =>
      rw [workerLeft, workerLeft, calls]
      show state.loop.queue.length - state.released.length + 1 <= state.loop.queue.length + 3
      omega
  | exit => exact nomatch ordinary
  | _ => exact stays rfl

theorem Step.nearer (step : Step state move answer next) (orderly : state.Orderly)
    (told : state.loop.quit = true) (moves : advancing move = true) :
    next.stepsLeft < state.stepsLeft := by
  cases step with
  | traffic ordinary made =>
      exact Nat.add_lt_add_right (workerLeft_traffic (Traffic.step_of_move? made) told moves) _
  | stop => exact nomatch moves
  | hold free =>
      refine Nat.add_lt_add_left ?_ _
      rw [callsLeft, callsLeft, free]
      exact Nat.lt_succ_self _
  | pass free calls unended =>
      exact Nat.add_lt_add_left (callsLeft_finish calls unended) _
  | collect holds calls =>
      exact Nat.add_lt_add_left (callsLeft_finish calls (orderly.unended_of_held holds calls)) _
  | @release failure discarded entry leaves oldest =>
      obtain ⟨hlt, -⟩ := List.getElem?_eq_some_iff.1 oldest
      refine Nat.add_lt_add_right ?_ _
      rw [workerLeft, workerLeft, leaves]
      show discarded.length - (state.released ++ [entry]).length + 1 <
        discarded.length - state.released.length + 1
      rw [List.length_append, List.length_singleton]
      omega
  | exit leaves =>
      refine Nat.add_lt_add_right ?_ _
      rw [workerLeft, workerLeft, leaves]
      exact Nat.succ_pos _

/-- No step puts the end off, except for the two steps of another call. -/
theorem Step.not_farther (step : Step state move answer next) (orderly : state.Orderly)
    (told : state.loop.quit = true) :
    next.stepsLeft <= state.stepsLeft + 2 * ([(move, answer)].filterMap stops).length := by
  by_cases moves : advancing move = true
  · exact Nat.le_trans (Nat.le_of_lt (step.nearer orderly told moves)) (Nat.le_add_right _ _)
  cases step with
  | traffic ordinary made =>
      have worker := workerLeft_traffic_le (Traffic.step_of_move? made) ordinary told
      exact Nat.add_le_add_right worker _
  | @stop thread unwinding =>
      have queue : (state.traffic.call (.thread thread) .first .stop).2.loop.queue =
          state.loop.queue := by
        show state.loop.requestStop.queue = state.loop.queue
        rw [Loop.requestStop_eq]
      show state.eventLoop.phase.stepsLeft
          (state.traffic.call (.thread thread) .first .stop).2.loop.queue.length
          state.released.length +
        (2 * (pending (state.calls ++ [⟨thread, unwinding, none⟩])).length +
          if state.holder.isNone then 1 else 0) <= state.stepsLeft + 2
      rw [queue, pending_told, List.length_append, List.length_singleton, stepsLeft, workerLeft,
        callsLeft]
      omega
  | @release failure discarded entry leaves =>
      refine Nat.add_le_add_right ?_ _
      rw [workerLeft, workerLeft, leaves]
      show discarded.length - (state.released ++ [entry]).length + 1 <=
        discarded.length - state.released.length + 1
      rw [List.length_append]
      omega
  | hold | pass | collect | exit => exact absurd rfl moves

/-- The steps of the worker and of the calls are limited, whatever else happens in between. -/
theorem Reaches.nearer (reaches : Reaches state later last) (runs : Runs past state)
    (told : state.loop.quit = true) :
    later.countP (fun step => advancing step.1) + last.stepsLeft <=
      state.stepsLeft + 2 * (later.filterMap stops).length := by
  induction reaches with
  | refl => exact Nat.le_of_eq (Nat.zero_add _)
  | @snoc middle next past move answer reaches made ih =>
      have step := step_of_move? made
      have orderly := (runs.trans reaches).orderly
      have told := (reaches.simulates runs.orderly).quit told
      have farther := step.not_farther orderly told
      rw [List.countP_append, List.countP_singleton, List.filterMap_append, List.length_append]
      split
      · next moves =>
          have nearer := step.nearer orderly told moves
          omega
      · omega

/-! ## There is always such a step -/

/-- A worker that has been told to quit and has not exited can go on. -/
theorem Runs.worker_canAdvance (runs : Runs past state) (told : state.loop.quit = true)
    (going : state.eventLoop.phase ≠ .exited) : state.CanAdvance := by
  cases phase : state.eventLoop.phase with
  | choosing =>
      obtain ⟨round, after, made⟩ := Traffic.exists_round phase .first
      exact ⟨.traffic (.round .first), rfl, by simp [move?, Move.isOrdinary, made]⟩
  | asleep deadline =>
      have flag : state.loop.signalled = true := by
        rcases runs.traffic.watchful deadline phase with flag | rest
        · exact flag
        · exact absurd (told.symm.trans rest.untold) (by decide)
      obtain ⟨after, made, -⟩ := Traffic.exists_wake phase flag .first
      exact ⟨.traffic (.wake .first), rfl, by simp [move?, Move.isOrdinary, made]⟩
  | calling handler =>
      exact ⟨.traffic (.endCallback none), rfl,
        by simp [move?, Move.isOrdinary, Traffic.move?, phase]⟩
  | leaving discarded =>
      have discards := runs.discards.1
      rw [phase] at discards
      rcases Nat.lt_or_ge state.released.length discarded.length with hlt | hge
      · exact ⟨.release none, rfl, by simp [move?, phase, hlt]⟩
      · have all := Nat.le_antisymm discards.2.length_le hge
        exact ⟨.exit, rfl, by simp [move?, phase, all]⟩
  | exited => exact absurd phase going

/-- When the worker has exited, a call that has not ended can go on, or waits for one that
holds the object and can. -/
theorem Runs.call_canAdvance (runs : Runs past state) (exited : state.eventLoop.phase = .exited)
    {call : StopCall} (hmem : call ∈ state.calls) (unended : call.outcome = none) :
    state.CanAdvance := by
  cases holds : state.holder with
  | some number =>
      obtain ⟨-, first, hfirst, -⟩ := runs.orderly.held number holds
      have gone := EventLoop.hasExited_iff.2 exited
      exact ⟨.collect, rfl, by simp [move?, holds, hfirst, gone]⟩
  | none =>
      obtain ⟨number, hcall⟩ := List.getElem?_of_mem hmem
      refine ⟨.take number, rfl, ?_⟩
      simp only [move?, holds, hcall, unended]
      by_cases joinable : state.eventLoop.thread.isJoinable = true
      · simp [joinable]
      · simp [joinable]

theorem Runs.done_or_canAdvance (runs : Runs past state) (told : state.loop.quit = true) :
    state.Done ∨ state.CanAdvance := by
  by_cases exited : state.eventLoop.phase = .exited
  · by_cases ended : ∀ call ∈ state.calls, call.outcome ≠ none
    · exact .inl ⟨exited, ended⟩
    · push Not at ended
      obtain ⟨call, hmem, unended⟩ := ended
      exact .inr (runs.call_canAdvance exited hmem unended)
  · exact .inr (runs.worker_canAdvance told exited)

/-- The worker and the calls come to their end if they go on. -/
theorem Runs.exists_done (runs : Runs past state) (told : state.loop.quit = true) :
    ∃ later last, Reaches state later last ∧ (∀ step ∈ later, advancing step.1 = true) ∧
      last.Done := by
  induction left : state.stepsLeft using Nat.strongRecOn generalizing past state with
  | ind count ih =>
      subst left
      rcases runs.done_or_canAdvance told with done | ⟨move, moves, able⟩
      · exact ⟨[], state, .refl state, fun _ hmem => absurd hmem List.not_mem_nil, done⟩
      · obtain ⟨⟨answer, next⟩, made⟩ := Option.isSome_iff_exists.1 able
        have reaches : Reaches state [(move, answer)] next := .snoc (.refl state) made
        have nearer := (step_of_move? made).nearer runs.orderly told moves
        have told := (reaches.simulates runs.orderly).quit told
        obtain ⟨later, last, hlater, advance, done⟩ := ih _ nearer (runs.snoc made) told rfl
        exact ⟨_, last, reaches.trans hlater, List.forall_mem_cons.2 ⟨moves, advance⟩, done⟩

end Shutdown

end Reactor
