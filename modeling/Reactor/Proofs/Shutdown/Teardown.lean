import Reactor.Proofs.Shutdown.Sound

/-!
# What a shutdown leaves behind

A call that stops the loop ends after the worker has exited, and the worker exits
with nothing left to do.  What was still queued when it left has been released by
then, each event once and in order, and nobody was called back.
-/

namespace Reactor

namespace Shutdown

variable {ε : Type} {state next last : Shutdown ε} {move : ShutdownMove ε}
  {answer : ShutdownAnswer ε} {past later : List (ShutdownMove ε × ShutdownAnswer ε)}

/-! ## Ended calls -/

/-- A call that has ended has found that the worker has exited. -/
theorem Runs.exited (runs : Runs past state) :
    ∀ call ∈ state.calls, call.outcome ≠ none -> state.eventLoop.phase = .exited := by
  refine runs.induction (P := fun _ state =>
    ∀ call ∈ state.calls, call.outcome ≠ none -> state.eventLoop.phase = .exited) ?_ ?_
  · intro _ _ _ _ call hmem
    exact absurd hmem List.not_mem_nil
  · intro past state move answer next runs step ih call hmem ended
    cases step with
    | traffic ordinary made => exact ((Traffic.step_of_move? made).exited (ih call hmem ended)).1
    | stop =>
        rcases List.mem_append.1 hmem with hold | hnew
        · exact ih call hold ended
        · rw [List.mem_singleton.1 hnew] at ended
          exact absurd rfl ended
    | hold => exact ih call hmem ended
    | pass free calls unended spent => exact runs.orderly.joined spent
    | collect holds calls gone => exact EventLoop.hasExited_iff.1 gone
    | release => exact ih call hmem ended
    | exit => rfl

/-- The worker has exited, and nothing is left of what it had to do. -/
structure Gone (state : Shutdown ε) : Prop where
  exited : state.eventLoop.phase = .exited
  told : state.loop.quit = true
  queue : state.loop.queue = []
  agenda : state.loop.timers.agenda = []
  index : state.loop.timers.index = []
  active : state.loop.active = none

theorem Runs.gone (runs : Runs past state) (exited : state.eventLoop.phase = .exited) :
    state.Gone := by
  have finished := runs.traffic.finished (by rw [exited]; rfl)
  have away : state.traffic.eventLoop.phase.Away := exited ▸ .exited
  exact ⟨exited, finished.told, finished.queue, finished.agenda, finished.index,
    runs.traffic.sound.active_eq_none away⟩

theorem Reaches.exited (reaches : Reaches state later last) (orderly : state.Orderly)
    (exited : state.eventLoop.phase = .exited) : last.eventLoop.phase = .exited :=
  (reaches.simulates orderly).preserves (P := fun traffic => traffic.eventLoop.phase = .exited)
    (fun exited step => (step.exited exited).1) exited

/-! ## Released events -/

/-- The event that a step has released. -/
def releases : ShutdownMove ε × ShutdownAnswer ε -> Option (QueuedEvent ε)
  | (_, .released entry) => some entry
  | _ => none

/-- What the worker has said in a step in which it has left. -/
def departs (step : ShutdownMove ε × ShutdownAnswer ε) : Option (Farewell ε) :=
  (project step).bind fun step => Traffic.farewell step.2

/-- What a step has to do with the worker's leaving. -/
inductive Course (state next : Shutdown ε) (step : ShutdownMove ε × ShutdownAnswer ε) : Prop
  | goesOn (before : state.eventLoop.phase.isOver = false)
      (after : next.eventLoop.phase.isOver = false) (silent : departs step = none)
      (keeps : releases step = none) (released : next.released = state.released)
  | leaves {farewell : Farewell ε} (before : state.eventLoop.phase.isOver = false)
      (said : departs step = some farewell) (all : farewell.discarded = state.loop.queue)
      (after : next.eventLoop.phase = .leaving state.loop.queue) (told : next.loop.quit = true)
      (keeps : releases step = none) (released : next.released = state.released)
  | stays (same : next.eventLoop.phase = state.eventLoop.phase) (silent : departs step = none)
      (keeps : releases step = none) (released : next.released = state.released)
  | frees {discarded : List (QueuedEvent ε)} {entry : QueuedEvent ε}
      (before : state.eventLoop.phase = .leaving discarded)
      (oldest : discarded[state.released.length]? = some entry)
      (after : next.eventLoop.phase = .leaving discarded) (silent : departs step = none)
      (gives : releases step = some entry) (released : next.released = state.released ++ [entry])
  | exits {discarded : List (QueuedEvent ε)}
      (before : state.eventLoop.phase = .leaving discarded)
      (all : state.released.length = discarded.length)
      (after : next.eventLoop.phase = .exited) (silent : departs step = none)
      (keeps : releases step = none) (released : next.released = state.released)

theorem Step.course (step : Step state move answer next) : Course state next (move, answer) := by
  cases step with
  | traffic ordinary made =>
      cases (Traffic.step_of_move? made).passage with
      | on before after silent => exact .goesOn before after silent rfl rfl
      | leaves before said all after finished =>
          exact .leaves before said all after finished.told rfl rfl
      | stays isOver same silent => exact .stays same silent rfl rfl
      | exits made =>
          subst made
          exact nomatch ordinary
  | stop => exact .stays rfl rfl rfl rfl
  | hold => exact .stays rfl rfl rfl rfl
  | pass => exact .stays rfl rfl rfl rfl
  | collect => exact .stays rfl rfl rfl rfl
  | release leaves oldest => exact .frees leaves oldest leaves rfl rfl rfl
  | exit leaves all => exact .exits leaves all rfl rfl rfl rfl

/-- The worker releases what it has said that it would discard, and exits after that. -/
def Discards (said : List (Farewell ε)) (released : List (QueuedEvent ε)) :
    WorkerPhase ε -> Prop
  | .choosing | .asleep _ | .calling _ => said = [] ∧ released = []
  | .leaving discarded =>
      (∃ farewell, said = [farewell] ∧ farewell.discarded = discarded) ∧ released <+: discarded
  | .exited => ∃ farewell, said = [farewell] ∧ farewell.discarded = released

theorem discards_iff_of_not_isOver {said : List (Farewell ε)} {released : List (QueuedEvent ε)}
    {phase : WorkerPhase ε} (going : phase.isOver = false) :
    Discards said released phase ↔ said = [] ∧ released = [] := by
  cases phase with
  | leaving => exact nomatch going
  | exited => exact nomatch going
  | _ => exact .rfl

theorem prefix_of_oldest {entry : QueuedEvent ε} {released discarded : List (QueuedEvent ε)}
    (h : released <+: discarded) (oldest : discarded[released.length]? = some entry) :
    released ++ [entry] <+: discarded := by
  obtain ⟨rest, rfl⟩ := h
  cases rest with
  | nil => simp at oldest
  | cons other rest =>
      obtain rfl : other = entry := by simpa using oldest
      exact ⟨rest, by simp⟩

theorem Course.discards {step : ShutdownMove ε × ShutdownAnswer ε} (h : Course state next step)
    {said : List (Farewell ε)} (discards : Discards said state.released state.eventLoop.phase) :
    Discards (said ++ (departs step).toList) next.released next.eventLoop.phase ∧
      next.released = state.released ++ (releases step).toList := by
  cases h with
  | goesOn before after silent keeps released =>
      rw [silent, keeps, released, discards_iff_of_not_isOver after]
      simpa using (discards_iff_of_not_isOver before).1 discards
  | leaves before said' all after told keeps released =>
      obtain ⟨rfl, none_released⟩ := (discards_iff_of_not_isOver before).1 discards
      rw [said', keeps, released, after, none_released]
      exact ⟨⟨⟨_, rfl, all⟩, List.nil_prefix⟩, rfl⟩
  | stays same silent keeps released =>
      rw [silent, keeps, released, same]
      simpa using discards
  | frees before oldest after silent gives released =>
      rw [before] at discards
      rw [silent, gives, released, after]
      exact ⟨⟨by simpa using discards.1, prefix_of_oldest discards.2 oldest⟩, rfl⟩
  | exits before all after silent keeps released =>
      rw [before] at discards
      obtain ⟨⟨farewell, hsaid, hdiscarded⟩, some_released⟩ := discards
      rw [silent, keeps, released, after]
      have all_released := some_released.eq_of_length all
      exact ⟨⟨farewell, by simpa using hsaid, hdiscarded.trans all_released.symm⟩, by simp⟩

theorem Runs.discards (runs : Runs past state) :
    Discards (past.filterMap departs) state.released state.eventLoop.phase ∧
      state.released = past.filterMap releases := by
  refine runs.induction (P := fun past state =>
    Discards (past.filterMap departs) state.released state.eventLoop.phase ∧
      state.released = past.filterMap releases) ?_ ?_
  · intro name stackSize eventLoop started
    have choosing : eventLoop.phase = .choosing := (Traffic.of_started name stackSize started).2
    refine ⟨(discards_iff_of_not_isOver ?_).2 ⟨rfl, rfl⟩, rfl⟩
    show eventLoop.phase.isOver = false
    rw [choosing]
    rfl
  · intro past state move answer next runs step ih
    rw [Machine.filterMap_snoc, Machine.filterMap_snoc, ← ih.2]
    exact step.course.discards ih.1

/-- The step of a run in which the worker has left. -/
structure Departure (past front back : List (ShutdownMove ε × ShutdownAnswer ε))
    (step : ShutdownMove ε × ShutdownAnswer ε) (before : Shutdown ε) : Prop where
  cut : past = front ++ step :: back
  runs : Runs front before
  said : (departs step).map (·.discarded) = some before.loop.queue
  /-- What was queued then is all that is released in the run. -/
  released : past.filterMap releases = before.loop.queue
  after : back.filterMap releases = before.loop.queue
  silent : ∀ other ∈ trafficOf back, Traffic.begins other = none ∧ Traffic.ends other = none

theorem Runs.exists_departure (runs : Runs past state)
    (exited : state.eventLoop.phase = .exited) :
    ∃ front step back before, Departure past front back step before := by
  obtain ⟨discards, history⟩ := runs.discards
  rw [exited] at discards
  obtain ⟨farewell, said, discarded⟩ := discards
  obtain ⟨front, ⟨move, answer⟩, back, rfl, -, hstep, -⟩ := List.filterMap_eq_cons_iff.1 said
  obtain ⟨before, after, hfront, made, hback⟩ := runs.cut
  have course := (step_of_move? made).course
  cases course with
  | leaves going said' all hafter told keeps =>
      have unreleased := (discards_iff_of_not_isOver going).1 hfront.discards.1
      have none_before : front.filterMap releases = [] :=
        hfront.discards.2.symm.trans unreleased.2
      have split : (front ++ (move, answer) :: back).filterMap releases =
          back.filterMap releases := by
        rw [List.filterMap_append, List.filterMap_cons, none_before, keeps]
        rfl
      have released : (front ++ (move, answer) :: back).filterMap releases =
          before.loop.queue := by
        rw [hstep] at said'
        cases said'
        rw [← history, ← discarded, all]
      refine ⟨front, _, back, before, rfl, hfront, ?_, released, split.symm.trans released, ?_⟩
      · rw [said', Option.map_some, all]
      · exact (hback.simulates (hfront.snoc made).orderly).silent told
          (congrArg WorkerPhase.isOver hafter)
  | goesOn _ _ silent => exact nomatch silent.symm.trans hstep
  | stays _ silent => exact nomatch silent.symm.trans hstep
  | frees _ _ _ silent => exact nomatch silent.symm.trans hstep
  | exits _ _ _ silent => exact nomatch silent.symm.trans hstep

/-! ## Teardown -/

structure TornDown (past : List (ShutdownMove ε × ShutdownAnswer ε)) (state : Shutdown ε) :
    Prop where
  /-- The loop has been told to quit if and only if it was stopped or a callback failed. -/
  told : state.loop.quit = true ↔
    ∃ step ∈ trafficOf past, Traffic.tellsQuit step.1 = true
  /-- From then on no delivery begins and no work is accepted.  The callbacks that end are the
  one that was running, if it has ended. -/
  quiet : state.loop.quit = true -> ∀ later last, Reaches state later last ->
    last.loop.quit = true ∧
      (∀ step ∈ trafficOf later,
        Traffic.begins step = none ∧ Traffic.takesWork step.2 = false) ∧
      (trafficOf later).filterMap Traffic.ends ++ last.traffic.running.toList =
        state.traffic.running.toList
  /-- When a call that stops the loop has returned or raised, nothing is left, for good. -/
  gone : ∀ call ∈ state.calls, call.outcome ≠ none ->
    ∀ later last, Reaches state later last -> last.Gone
  /-- When the worker has exited, what was queued when it left has been released, each event
  once and in order, and no callback has begun or ended meanwhile. -/
  released : state.eventLoop.phase = .exited ->
    ∃ front step back before, Departure past front back step before

theorem stopped_loop_is_torn_down (runs : Runs past state) : TornDown past state where
  told := runs.traffic.quit_iff
  quiet told later last reaches := by
    have reaches := reaches.simulates runs.orderly
    exact ⟨reaches.quit told, reaches.quiet told⟩
  gone call hmem ended later last reaches := by
    have exited := reaches.exited runs.orderly (runs.exited call hmem ended)
    exact (runs.trans reaches).gone exited
  released exited := runs.exists_departure exited

/-- Two threads stop a loop during a callback.  An event that was queued is released, and what
its destruction posts is not accepted. -/
theorem stopped_twice_during_callback :
    ∃ (past : List (ShutdownMove Nat × ShutdownAnswer Nat)) (state : Shutdown Nat),
      Runs past state ∧
      state.calls.map (·.outcome) = [some .returned, some .returned] ∧
      (past.filterMap releases).map (·.event) = [8] ∧ TornDown past state := by
  have runs : Runs _ _ := runs_of_moves? "worker" none
    [.traffic (.bind ⟨0⟩ .alive),
      .traffic (.call (.thread ⟨1⟩) .first (.send ⟨0⟩ (7 : Nat))),
      .traffic (.call (.thread ⟨1⟩) .first (.send ⟨0⟩ 8)), .traffic (.round .first),
      .stop ⟨1⟩ false false, .stop ⟨2⟩ false false, .take 1,
      .traffic (.endCallback none), .traffic (.round .first),
      .traffic (.call .worker .first (.send ⟨0⟩ 9)), .release none, .exit, .collect,
      .take 0] rfl rfl
  exact ⟨_, _, runs, rfl, rfl, stopped_loop_is_torn_down runs⟩

end Shutdown

end Reactor
