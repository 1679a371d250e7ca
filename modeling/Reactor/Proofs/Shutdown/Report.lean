import Reactor.Proofs.Shutdown.Progress
import Reactor.Proofs.Traffic.Failure

/-!
# A failure is reported once

A call that stops the loop tells it to quit, and so does a callback that fails; then
the worker exits and all such calls end.  The failure in which a callback has ended
goes to the call that joins the worker, which is the first to take the object of its
thread.  All others return.
-/

namespace Reactor

namespace Shutdown

variable {ε : Type} {state next last : Shutdown ε} {move : ShutdownMove ε}
  {answer : ShutdownAnswer ε} {past later : List (ShutdownMove ε × ShutdownAnswer ε)}

/-! ## History -/

/-- The call that takes the object of the worker thread in a step. -/
def takes : ShutdownMove ε × ShutdownAnswer ε -> Option Nat
  | (.take number, _) => some number
  | _ => none

/-- The failure in which a step has ended a callback. -/
def panics : ShutdownMove ε × ShutdownAnswer ε -> Option String
  | (.traffic (.endCallback failure), _) => failure
  | _ => none

/-- The failure in which a step has released an event. -/
def lapses : ShutdownMove ε × ShutdownAnswer ε -> Option String
  | (.release failure, _) => failure
  | _ => none

/-- The first call to join the worker. -/
def joiner (past : List (ShutdownMove ε × ShutdownAnswer ε)) : Option Nat :=
  (past.filterMap takes).head?

/-- The failure in which a callback has ended. -/
def failureOf (past : List (ShutdownMove ε × ShutdownAnswer ε)) : Option String :=
  (past.filterMap panics).head?

/-- The destruction of the events that were not delivered has not failed. -/
def ReleasesReturn (past : List (ShutdownMove ε × ShutdownAnswer ε)) : Prop :=
  ∀ step ∈ past, lapses step = none

theorem releasesReturn_of_all (h : (past.all fun step => (lapses step).isNone) = true) :
    ReleasesReturn past := by
  intro step hmem
  exact Option.isNone_iff_eq_none.1 (List.all_eq_true.1 h step hmem)

/-- Where the worker and the calls go on, no failure is added. -/
theorem panics_of_advancing {step : ShutdownMove ε × ShutdownAnswer ε}
    (moves : advancing step.1 = true) : panics step = none := by
  obtain ⟨move, answer⟩ := step
  cases move with
  | traffic move =>
      cases move with
      | endCallback => exact Option.isNone_iff_eq_none.1 moves
      | _ => rfl
  | _ => rfl

theorem lapses_of_advancing {step : ShutdownMove ε × ShutdownAnswer ε}
    (moves : advancing step.1 = true) : lapses step = none := by
  obtain ⟨move, answer⟩ := step
  cases move with
  | release => exact Option.isNone_iff_eq_none.1 moves
  | _ => rfl

theorem failureOf_append_of_advancing (moves : ∀ step ∈ later, advancing step.1 = true) :
    failureOf (past ++ later) = failureOf past := by
  have fine : later.filterMap panics = [] :=
    List.filterMap_eq_nil_iff.2 fun step hmem => panics_of_advancing (moves step hmem)
  rw [failureOf, failureOf, List.filterMap_append, fine, List.append_nil]

theorem head?_snoc {α : Type} (f : ShutdownMove ε × ShutdownAnswer ε -> Option α)
    (step : ShutdownMove ε × ShutdownAnswer ε) :
    ((past ++ [step]).filterMap f).head? = ((past.filterMap f).head?).or (f step) := by
  rw [Machine.filterMap_snoc]
  cases past.filterMap f <;> cases f step <;> rfl

theorem map_calls_finish {number : Nat} {call : StopCall}
    (hcall : state.calls[number]? = some call) :
    ((state.finish number call).2.calls.map fun call => (call.thread, call.unwinding)) =
      state.calls.map fun call => (call.thread, call.unwinding) := by
  refine map_ended _ hcall ?_
  rfl

/-- The calls are those that have begun, in order. -/
theorem Runs.stops_eq (runs : Runs past state) :
    past.filterMap stops = state.calls.map fun call => (call.thread, call.unwinding) := by
  refine runs.induction (P := fun past state =>
    past.filterMap stops = state.calls.map fun call => (call.thread, call.unwinding)) ?_ ?_
  · intro name stackSize eventLoop started
    rfl
  · intro past state move answer next runs step ih
    rw [Machine.filterMap_snoc, ih]
    cases step with
    | stop =>
        rw [List.map_append]
        rfl
    | pass free calls => exact (List.append_nil _).trans (map_calls_finish calls).symm
    | collect holds calls => exact (List.append_nil _).trans (map_calls_finish calls).symm
    | _ => exact List.append_nil _

/-! ## The failure -/

/-- The failure of the worker is that of a callback, and while the worker goes on there is
none. -/
structure Blames (past : List (ShutdownMove ε × ShutdownAnswer ε)) (state : Shutdown ε) :
    Prop where
  lapse : state.lapse = none
  failure : state.eventLoop.failure = failureOf past
  fine : state.eventLoop.phase.isOver = false -> failureOf past = none

/-- An ordinary move can fail only as the end of a callback. -/
theorem panics_eq {move : Move ε} (ordinary : move.isOrdinary = true)
    (answer : ShutdownAnswer ε) : panics (.traffic move, answer) = Traffic.fails move := by
  cases move with
  | exit => exact nomatch ordinary
  | _ => rfl

theorem tellsQuit_eq {move : Move ε} (ordinary : move.isOrdinary = true) :
    Traffic.tellsQuit move = (Traffic.fails move).isSome := by
  cases move with
  | call caller now call =>
      cases call with
      | stop =>
          obtain rfl : caller = .worker := of_decide_eq_true ordinary
          rfl
      | _ => rfl
  | exit => exact nomatch ordinary
  | _ => rfl

/-- The loop is told to quit by a call that stops it and by a callback that fails. -/
theorem Step.quit_eq (step : Step state move answer next) :
    next.loop.quit =
      (state.loop.quit || (stops (move, answer)).isSome || (panics (move, answer)).isSome) := by
  have same : stops (move, answer) = none -> panics (move, answer) = none ->
      next.loop.quit = state.loop.quit ->
      next.loop.quit =
        (state.loop.quit || (stops (move, answer)).isSome || (panics (move, answer)).isSome) := by
    intro unstopped unpanicked keeps
    rw [unstopped, unpanicked, keeps]
    simp only [Option.isSome_none, Bool.or_false]
  cases step with
  | traffic ordinary made =>
      rw [panics_eq ordinary, ← tellsQuit_eq ordinary]
      exact (Traffic.step_of_move? made).quit_eq.trans (congrArg (· || _) (Bool.or_false _).symm)
  | stop =>
      show state.loop.requestStop.quit = (state.loop.quit || true || false)
      rw [Loop.requestStop_eq, Bool.or_true, Bool.true_or]
  | _ => exact same rfl rfl rfl

theorem Runs.quit_iff (runs : Runs past state) :
    state.loop.quit = true ↔ state.calls ≠ [] ∨ failureOf past ≠ none := by
  have told : state.loop.quit = true ↔ past.filterMap stops ≠ [] ∨ failureOf past ≠ none := by
    refine runs.induction (P := fun past state =>
      state.loop.quit = true ↔ past.filterMap stops ≠ [] ∨ failureOf past ≠ none) ?_ ?_
    · intro name stackSize eventLoop started
      have untold := Traffic.Runs.quit_iff ⟨name, stackSize, eventLoop, started, .refl _⟩
      exact untold.trans (by simp [failureOf])
    · intro past state move answer next runs step ih
      rw [step.quit_eq, Bool.or_eq_true, Bool.or_eq_true, ih, failureOf, failureOf, head?_snoc,
        Machine.filterMap_snoc]
      cases stops (move, answer) <;> cases panics (move, answer) <;>
        cases (past.filterMap panics).head? <;> simp
  rw [told, runs.stops_eq, ne_eq, List.map_eq_nil_iff]

theorem Blames.step (h : Blames past state) (step : Step state move answer next)
    (returns : lapses (move, answer) = none) : Blames (past ++ [(move, answer)]) next := by
  have same : panics (move, answer) = none -> next.lapse = none ->
      next.eventLoop.failure = state.eventLoop.failure ->
      (next.eventLoop.phase.isOver = false -> state.eventLoop.phase.isOver = false) ->
      Blames (past ++ [(move, answer)]) next := by
    intro unpanicked lapse failure going
    have none_new : failureOf (past ++ [(move, answer)]) = failureOf past := by
      rw [failureOf, head?_snoc, unpanicked, Option.or_none, ← failureOf]
    exact ⟨lapse, by rw [none_new, failure, h.failure],
      fun still => none_new ▸ h.fine (going still)⟩
  cases step with
  | @traffic _ _ following ordinary made =>
      have step := Traffic.step_of_move? made
      have panicked := panics_eq ordinary
      have failure := step.failure_eq
      cases step.passage with
      | on before after silent fine =>
          rw [fine] at failure panicked
          exact same (panicked _) h.lapse failure fun _ => before
      | leaves before said all after =>
          have unfailed : failureOf past = none := h.fine before
          refine ⟨h.lapse, ?_, fun going => ?_⟩
          · rw [failureOf, head?_snoc, ← failureOf, unfailed, Option.none_or, panicked]
            exact failure.trans (by rw [h.failure, unfailed, Option.or_none])
          · have going : following.eventLoop.phase.isOver = false := going
            rw [after] at going
            exact nomatch going
      | stays isOver same' silent fine =>
          rw [fine] at failure panicked
          exact same (panicked _) h.lapse failure fun going => same' ▸ going
      | exits made =>
          subst made
          exact nomatch ordinary
  | stop => exact same rfl h.lapse rfl id
  | hold => exact same rfl h.lapse rfl id
  | pass => exact same rfl h.lapse rfl id
  | collect => exact same rfl h.lapse rfl id
  | @release failure =>
      obtain rfl : failure = none := returns
      exact same rfl (by simp [h.lapse]) rfl id
  | exit => exact same rfl h.lapse (by simp [EventLoop.exit, h.lapse]) fun going => nomatch going

theorem Runs.blames (runs : Runs past state) (returns : ReleasesReturn past) :
    Blames past state := by
  refine runs.induction (P := fun past state => ReleasesReturn past -> Blames past state) ?_ ?_
    returns
  · intro name stackSize eventLoop started _
    exact ⟨rfl, (EventLoop.fresh_of_started name stackSize started).2, fun _ => rfl⟩
  · intro past state move answer next runs step ih returns
    have before := ih fun step hmem => returns step (List.mem_append_left _ hmem)
    exact before.step step (returns _ (List.mem_append_right _ (List.mem_singleton_self _)))

/-! ## The calls -/

/-- How far the calls that stop the loop have come, given the first one to join. -/
inductive Claimed (state : Shutdown ε) : Option Nat -> Prop
  | free (joinable : state.eventLoop.thread.isJoinable = true) (unheld : state.holder = none)
      (unended : ∀ call ∈ state.calls, call.outcome = none) : Claimed state none
  | held {first : Nat} (joinable : state.eventLoop.thread.isJoinable = true)
      (holds : state.holder = some first) (unended : ∀ call ∈ state.calls, call.outcome = none) :
      Claimed state (some first)
  /-- The first call has ended, with the failure; the others find nothing to join. -/
  | joined {first : Nat} (spent : state.eventLoop.thread.isJoinable = false)
      (ended : ∃ call, state.calls[first]? = some call ∧ call.outcome ≠ none)
      (outcomes : ∀ (number : Nat) (call : StopCall) (outcome : StopOutcome),
        state.calls[number]? = some call -> call.outcome = some outcome ->
        outcome = .of (if number = first then state.eventLoop.failure else none) call.unwinding) :
      Claimed state (some first)

theorem calls_finish {failure : Option String} (number : Nat) (call : StopCall)
    (result : state.eventLoop.join.1.join = failure) :
    (state.finish number call).2.calls =
      state.calls.set number { call with outcome := some (.of failure call.unwinding) } := by
  subst result
  rfl

section Claimed

variable {first : Option Nat} (h : Claimed state first)
include h

theorem Claimed.keep (thread : next.eventLoop.thread = state.eventLoop.thread)
    (holder : next.holder = state.holder) (calls : next.calls = state.calls)
    (failure : state.eventLoop.thread.isJoinable = false ->
      next.eventLoop.failure = state.eventLoop.failure) : Claimed next first := by
  cases h with
  | free joinable unheld unended =>
      exact .free (thread ▸ joinable) (holder ▸ unheld) (calls ▸ unended)
  | held joinable holds unended =>
      exact .held (thread ▸ joinable) (holder ▸ holds) (calls ▸ unended)
  | joined spent ended outcomes =>
      refine .joined (thread ▸ spent) (calls ▸ ended) ?_
      rw [calls, failure spent]
      exact outcomes

/-- A call that has just begun has not ended. -/
theorem Claimed.told {other : StopCall} (new : other.outcome = none)
    (thread : next.eventLoop = { state.eventLoop with loop := next.loop })
    (holder : next.holder = state.holder) (calls : next.calls = state.calls ++ [other]) :
    Claimed next first := by
  have unended : (∀ call ∈ state.calls, call.outcome = none) ->
      ∀ call ∈ next.calls, call.outcome = none := by
    intro unended call hmem
    rw [calls] at hmem
    rcases List.mem_append.1 hmem with hold | hnew
    · exact unended call hold
    · rw [List.mem_singleton.1 hnew, new]
  have same : next.eventLoop.thread = state.eventLoop.thread := by rw [thread]
  cases h with
  | free joinable unheld old => exact .free (same ▸ joinable) (holder ▸ unheld) (unended old)
  | held joinable holds old => exact .held (same ▸ joinable) (holder ▸ holds) (unended old)
  | joined spent ended outcomes =>
      obtain ⟨call, hcall, hended⟩ := ended
      refine .joined (same ▸ spent) ⟨call, ?_, hended⟩ fun number call outcome hcall houtcome => ?_
      · rw [calls]
        exact getElem?_told hcall other
      · rw [calls] at hcall
        rcases told_cases hcall with hold | rfl
        · rw [thread]
          exact outcomes number call outcome hold houtcome
        · rw [new] at houtcome
          cases houtcome

/-- The call that holds the object joins, and ends with the failure of the worker. -/
theorem Claimed.collect (orderly : state.Orderly) {number : Nat} {call : StopCall}
    (holds : state.holder = some number) (hcall : state.calls[number]? = some call) :
    Claimed (state.finish number call).2 first := by
  obtain ⟨joinable, -⟩ := orderly.held number holds
  cases h with
  | free _ unheld => exact nomatch unheld.symm.trans holds
  | joined spent => exact nomatch spent.symm.trans joinable
  | @held first _ holds' unended =>
      obtain rfl : number = first := Option.some.inj (holds.symm.trans holds')
      have calls := calls_finish number call
        (congrArg Option.join (EventLoop.join_of_joinable joinable))
      have ended := getElem?_ended hcall (.of state.eventLoop.failure call.unwinding)
      refine .joined rfl ⟨_, calls ▸ ended, Option.some_ne_none _⟩
        fun other call' outcome hcall' houtcome => ?_
      rw [calls] at hcall'
      rcases set_cases hcall' with ⟨rfl, rfl⟩ | ⟨-, hold⟩
      · cases houtcome
        rw [if_pos rfl]
        rfl
      · rw [unended call' (List.mem_of_getElem? hold)] at houtcome
        cases houtcome

/-- A call that finds nothing to join returns. -/
theorem Claimed.pass {number : Nat} {call : StopCall} (hcall : state.calls[number]? = some call)
    (unended : call.outcome = none) (spent : state.eventLoop.thread.isJoinable = false) :
    Claimed (state.finish number call).2 first := by
  cases h with
  | free joinable => exact nomatch spent.symm.trans joinable
  | held joinable => exact nomatch spent.symm.trans joinable
  | @joined first _ ended outcomes =>
      obtain ⟨joiner, hjoiner, hended⟩ := ended
      have other_call : number ≠ first := by
        rintro rfl
        rw [hcall] at hjoiner
        cases hjoiner
        exact hended unended
      have calls := calls_finish number call
        (congrArg Option.join (EventLoop.join_of_spent spent))
      refine .joined rfl ⟨joiner, ?_, hended⟩ fun other call' outcome hcall' houtcome => ?_
      · exact (List.getElem?_set_ne other_call).trans hjoiner
      · rw [calls] at hcall'
        rcases set_cases hcall' with ⟨rfl, rfl⟩ | ⟨-, hold⟩
        · cases houtcome
          rw [if_neg other_call]
          rfl
        · exact outcomes other call' outcome hold houtcome

end Claimed

theorem Claimed.step {first : Option Nat} (h : Claimed state first) (orderly : state.Orderly)
    (step : Step state move answer next) : Claimed next (first.or (takes (move, answer))) := by
  have same : takes (move, answer) = none -> Claimed next first ->
      Claimed next (first.or (takes (move, answer))) := by
    intro untaken claimed
    rwa [untaken, Option.or_none]
  cases step with
  | traffic ordinary made =>
      have step := Traffic.step_of_move? made
      refine same rfl (h.keep (step.thread_eq ordinary).1 rfl rfl fun spent => ?_)
      exact (step.exited (orderly.joined spent)).2
  | stop => exact same rfl (h.told rfl rfl rfl rfl)
  | hold free calls unended joinable =>
      cases h with
      | free _ _ unended => exact .held joinable rfl unended
      | held _ holds => exact nomatch free.symm.trans holds
      | joined spent => exact nomatch spent.symm.trans joinable
  | pass free calls unended spent =>
      have passed := h.pass calls unended spent
      cases h with
      | free joinable => exact nomatch spent.symm.trans joinable
      | held joinable => exact nomatch spent.symm.trans joinable
      | joined => exact passed
  | collect holds calls => exact same rfl (h.collect orderly holds calls)
  | release => exact same rfl (h.keep rfl rfl rfl fun _ => rfl)
  | exit leaves =>
      refine same rfl (h.keep rfl rfl rfl fun spent => ?_)
      exact nomatch leaves.symm.trans (orderly.joined spent)

theorem Runs.claimed (runs : Runs past state) : Claimed state (joiner past) := by
  refine runs.induction (P := fun past state => Claimed state (joiner past)) ?_ ?_
  · intro name stackSize eventLoop started
    exact .free (EventLoop.fresh_of_started name stackSize started).1 rfl
      fun _ hmem => absurd hmem List.not_mem_nil
  · intro past state move answer next runs step ih
    rw [joiner, head?_snoc]
    exact ih.step runs.orderly step

/-! ## The report -/

/-- What the failure of a callback does at once, and what it leaves in a later state. -/
structure Collapsed (front back : List (ShutdownMove ε × ShutdownAnswer ε)) (state : Shutdown ε) :
    Prop where
  /-- The callback ends as any other would, and the loop with it. -/
  collapse : ∃ before next handler, Runs front before ∧ Reaches next back state ∧
    Traffic.Collapse (trafficOf front) before.traffic next.traffic handler
  /-- There is no delivery after it. -/
  last : ∀ step ∈ trafficOf back, Traffic.begins step = none ∧ Traffic.ends step = none
  refuses : state.traffic.Refuses

theorem Runs.collapsed {front back : List (ShutdownMove ε × ShutdownAnswer ε)} {message : String}
    (runs : Runs (front ++ (.traffic (.endCallback (some message)), answer) :: back) state) :
    Collapsed front back state := by
  obtain ⟨before, next, hfront, made, hback⟩ := runs.cut
  have reaches := hback.simulates (hfront.snoc made).orderly
  cases step_of_move? made with
  | traffic ordinary inner =>
      obtain ⟨handler, collapse⟩ := hfront.traffic.collapse (Traffic.step_of_move? inner)
      have leaving := congrArg WorkerPhase.isOver collapse.leaves
      have left := reaches.isOver leaving
      exact ⟨⟨before, _, handler, hfront, hback, collapse⟩,
        reaches.silent collapse.finished.told leaving,
        runs.traffic.sound.refuses (runs.traffic.finished left) left⟩

/-- The failure of a callback is the only one. -/
theorem Runs.failureOf_eq {front back : List (ShutdownMove ε × ShutdownAnswer ε)}
    {message : String}
    (runs : Runs (front ++ (.traffic (.endCallback (some message)), answer) :: back) state)
    (returns : ReleasesReturn front) :
    failureOf (front ++ (.traffic (.endCallback (some message)), answer) :: back) =
      some message := by
  obtain ⟨before, _, handler, hfront, -, collapse⟩ := runs.collapsed.collapse
  have going : before.eventLoop.phase.isOver = false := congrArg WorkerPhase.isOver collapse.calls
  have fine := List.head?_eq_none_iff.1 ((hfront.blames returns).fine going)
  rw [failureOf, List.filterMap_append, fine]
  rfl

/-- How the calls that stop the loop end, and what a failure of a callback has to do with it. -/
structure Reported (past : List (ShutdownMove ε × ShutdownAnswer ε)) (state : Shutdown ε) :
    Prop where
  collapsed : ∀ front message answer back,
    past = front ++ (.traffic (.endCallback (some message)), answer) :: back ->
    Collapsed front back state ∧ failureOf past = some message
  /-- Any thread can stop the loop until it is given up, which is done when no call is left. -/
  begins : state.givenUp = false -> ∀ thread unwinding last,
    (last = true -> ∀ call ∈ state.calls, call.outcome ≠ none) ->
    ∃ next, state.move? (.stop thread unwinding last) = some (.told, next)
  /-- The calls are those of the history, in order. -/
  calls : past.filterMap stops = state.calls.map fun call => (call.thread, call.unwinding)
  /-- The loop has been told to quit if there is such a call or a callback has failed, and not
  otherwise. -/
  told : state.loop.quit = true ↔ state.calls ≠ [] ∨ failureOf past ≠ none
  /-- No call ends before the one that was the first to join. -/
  first : ∀ call ∈ state.calls, call.outcome ≠ none ->
    ∃ number, joiner past = some number ∧
      ∃ call, state.calls[number]? = some call ∧ call.outcome ≠ none
  /-- The first to join ends with the failure, if there was one: it raises it or, if its thread is
  unwinding, discards it. -/
  obtains : ∀ (number : Nat) (call : StopCall) (outcome : StopOutcome) (message : String),
    state.calls[number]? = some call -> call.outcome = some outcome ->
    joiner past = some number -> failureOf past = some message ->
    (call.unwinding = false -> outcome = .raised message) ∧
      (call.unwinding = true -> outcome = .discarded message)
  /-- All others return. -/
  others : ∀ (number : Nat) (call : StopCall) (outcome : StopOutcome),
    state.calls[number]? = some call -> call.outcome = some outcome ->
    joiner past ≠ some number -> outcome = .returned
  /-- When no callback has failed, all return. -/
  returned : failureOf past = none ->
    ∀ call ∈ state.calls, ∀ outcome, call.outcome = some outcome -> outcome = .returned
  /-- When there is such a call or a callback has failed, the worker and the calls go on until the
  worker has exited and all calls have ended, whatever else happens in between.  They cannot go on
  for ever unless there is always another call. -/
  ends : state.calls ≠ [] ∨ failureOf past ≠ none -> ∀ later last, Reaches state later last ->
    later.countP (fun step => advancing step.1) + last.stepsLeft <=
        state.stepsLeft + 2 * (later.filterMap stops).length ∧
      (last.Done ∨ last.CanAdvance)
  /-- They come to this end without another failure, and if there was none before, all calls have
  returned then. -/
  done : state.calls ≠ [] ∨ failureOf past ≠ none ->
    ∃ later last, Reaches state later last ∧ (∀ step ∈ later, advancing step.1 = true) ∧
      last.Done ∧ (failureOf past = none -> ∀ call ∈ last.calls, call.outcome = some .returned)

theorem Runs.outcome_eq (runs : Runs past state) (returns : ReleasesReturn past) {number : Nat}
    {call : StopCall} {outcome : StopOutcome} (hcall : state.calls[number]? = some call)
    (houtcome : call.outcome = some outcome) :
    outcome =
      .of (if joiner past = some number then failureOf past else none) call.unwinding := by
  have claimed := runs.claimed
  have ended : ¬ ∀ call ∈ state.calls, call.outcome = none := by
    intro unended
    rw [unended call (List.mem_of_getElem? hcall)] at houtcome
    cases houtcome
  generalize joiner past = first at claimed ⊢
  cases claimed with
  | free _ _ unended => exact absurd unended ended
  | held _ _ unended => exact absurd unended ended
  | joined _ _ outcomes =>
      rw [outcomes number call outcome hcall houtcome, (runs.blames returns).failure]
      simp only [Option.some.injEq, eq_comm]

/-- When no callback has failed, all calls return. -/
theorem Runs.returned (runs : Runs past state) (returns : ReleasesReturn past)
    (fine : failureOf past = none) {call : StopCall} {outcome : StopOutcome}
    (hmem : call ∈ state.calls) (houtcome : call.outcome = some outcome) : outcome = .returned := by
  obtain ⟨number, hcall⟩ := List.getElem?_of_mem hmem
  rw [runs.outcome_eq returns hcall houtcome, fine, ite_self]
  rfl

theorem move?_stop (kept : state.givenUp = false) (thread : ThreadId) (unwinding : Bool)
    {final : Bool} (alone : final = true -> ∀ call ∈ state.calls, call.outcome ≠ none) :
    ∃ next, state.move? (.stop thread unwinding final) = some (.told, next) := by
  have allowed : ¬ (state.givenUp || final && state.calls.any (·.outcome.isNone)) = true := by
    simpa [kept] using alone
  simp only [move?]
  rw [if_neg allowed]
  exact ⟨_, rfl⟩

/-- No call ends before the first to join, for which the others wait. -/
theorem Runs.exists_joiner (runs : Runs past state) {call : StopCall} (hmem : call ∈ state.calls)
    (ended : call.outcome ≠ none) :
    ∃ number, joiner past = some number ∧
      ∃ call, state.calls[number]? = some call ∧ call.outcome ≠ none := by
  have claimed := runs.claimed
  generalize joiner past = first at claimed ⊢
  cases claimed with
  | free _ _ unended => exact absurd (unended call hmem) ended
  | held _ _ unended => exact absurd (unended call hmem) ended
  | joined _ joined => exact ⟨_, rfl, joined⟩

theorem callback_failure_is_reported_once (runs : Runs past state)
    (returns : ReleasesReturn past) : Reported past state where
  collapsed front message answer back hpast := by
    subst hpast
    refine ⟨runs.collapsed, runs.failureOf_eq fun step hmem => ?_⟩
    exact returns step (List.mem_append_left _ hmem)
  begins kept thread unwinding last alone := move?_stop kept thread unwinding alone
  calls := runs.stops_eq
  told := runs.quit_iff
  first call hmem ended := runs.exists_joiner hmem ended
  obtains number call outcome message hcall houtcome first failure := by
    rw [runs.outcome_eq returns hcall houtcome, if_pos first, failure]
    constructor
    · intro calm
      rw [calm]
      rfl
    · intro unwinding
      rw [unwinding]
      rfl
  others number call outcome hcall houtcome later := by
    rw [runs.outcome_eq returns hcall houtcome, if_neg later]
    rfl
  returned fine call hmem outcome houtcome := runs.returned returns fine hmem houtcome
  ends begun later last reaches := by
    have told := runs.quit_iff.2 begun
    have told' := (reaches.simulates runs.orderly).quit told
    exact ⟨reaches.nearer runs told, (runs.trans reaches).done_or_canAdvance told'⟩
  done begun := by
    obtain ⟨later, last, reaches, moves, done⟩ := runs.exists_done (runs.quit_iff.2 begun)
    refine ⟨later, last, reaches, moves, done, fun fine call hmem => ?_⟩
    have returns' : ReleasesReturn (past ++ later) := List.forall_mem_append.2
      ⟨returns, fun step hmem => lapses_of_advancing (moves step hmem)⟩
    have fine' : failureOf (past ++ later) = none :=
      (failureOf_append_of_advancing moves).trans fine
    obtain ⟨outcome, houtcome⟩ := Option.ne_none_iff_exists'.1 (done.ended call hmem)
    rw [houtcome, (runs.trans reaches).returned returns' fine' hmem houtcome]

/-- A callback fails while its handler is being removed and two threads stop the loop.  Then a
callback fails before the loop is stopped by a thread that is unwinding, by another one, and when
it is given up.  Last, two threads stop a loop without work, whose worker sleeps. -/
theorem failed_and_sound_loops_are_stopped :
    (∃ (past : List (ShutdownMove Nat × ShutdownAnswer Nat)) (state : Shutdown Nat),
      Runs past state ∧ ReleasesReturn past ∧ failureOf past = some "no" ∧
      state.calls.map (·.outcome) = [some .returned, some (.raised "no")] ∧
      Reported past state) ∧
    (∃ (past : List (ShutdownMove Nat × ShutdownAnswer Nat)) (state : Shutdown Nat),
      Runs past state ∧ ReleasesReturn past ∧ failureOf past = some "no" ∧
      (state.calls.map fun call => (call.unwinding, call.outcome)) =
        [(true, some (.discarded "no")), (false, some .returned), (false, some .returned)] ∧
      Reported past state) ∧
    ∃ (past : List (ShutdownMove Nat × ShutdownAnswer Nat)) (state : Shutdown Nat),
      Runs past state ∧ ReleasesReturn past ∧ failureOf past = none ∧
      state.calls.map (·.outcome) = [some .returned, some .returned] ∧
      state.eventLoop.phase = .exited ∧ Reported past state := by
  have failing : Runs _ _ := runs_of_moves? "worker" none
    [.traffic (.bind ⟨0⟩ .alive),
      .traffic (.call (.thread ⟨1⟩) .first (.send ⟨0⟩ (7 : Nat))), .traffic (.round .first),
      .traffic (.call (.thread ⟨1⟩) .first (.send ⟨0⟩ 8)), .stop ⟨1⟩ false false,
      .stop ⟨2⟩ false false, .take 1,
      .traffic (.call (.thread ⟨3⟩) .first (.remove ⟨0⟩)),
      .traffic (.endCallback (some "no")), .traffic (.resume ⟨3⟩ ⟨0⟩), .exit, .collect,
      .take 0] rfl rfl
  have unwinding : Runs _ _ := runs_of_moves? "worker" none
    [.traffic (.bind ⟨0⟩ .alive),
      .traffic (.call (.thread ⟨1⟩) .first (.send ⟨0⟩ (7 : Nat))), .traffic (.round .first),
      .traffic (.endCallback (some "no")), .stop ⟨1⟩ true false, .take 0, .stop ⟨2⟩ false false,
      .exit, .collect, .take 1, .stop ⟨3⟩ false true, .take 2] rfl rfl
  have sound : Runs (ε := Nat) _ _ := runs_of_moves? "worker" none
    [.traffic (.round .first), .stop ⟨1⟩ false false, .stop ⟨2⟩ true false, .take 0,
      .traffic (.wake .first), .traffic (.round .first), .exit, .collect, .take 1] rfl rfl
  refine ⟨⟨_, _, failing, releasesReturn_of_all rfl, rfl, rfl, ?_⟩,
    ⟨_, _, unwinding, releasesReturn_of_all rfl, rfl, rfl, ?_⟩,
    ⟨_, _, sound, releasesReturn_of_all rfl, rfl, rfl, rfl, ?_⟩⟩
  · exact callback_failure_is_reported_once failing (releasesReturn_of_all rfl)
  · exact callback_failure_is_reported_once unwinding (releasesReturn_of_all rfl)
  · exact callback_failure_is_reported_once sound (releasesReturn_of_all rfl)

end Shutdown

end Reactor
