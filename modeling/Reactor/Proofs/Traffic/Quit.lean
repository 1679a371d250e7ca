import Reactor.Proofs.Traffic.Life

/-!
# The end of the traffic

Once its loop has been told to quit, a worker begins no delivery, and no work is
accepted.  When the worker leaves it takes with it all that is queued or armed,
so nothing is left from then on.
-/

namespace Reactor

namespace Loop

variable {ε : Type} {loop after : Loop ε} {handler : HandlerId}

theorem accepts_eq_false_of_quit (told : loop.quit = true) (handler : HandlerId) :
    loop.accepts handler = false := by
  rw [← Bool.not_eq_true, accepts_iff]
  rintro ⟨untold, -⟩
  exact Bool.false_ne_true (untold.symm.trans told)

/-- The loop has been told to quit, and holds no work. -/
structure Finished (loop : Loop ε) : Prop where
  told : loop.quit = true
  queue : loop.queue = []
  agenda : loop.timers.agenda = []
  index : loop.timers.index = []

theorem finished_shutDown (told : loop.quit = true) : loop.shutDown.2.Finished :=
  ⟨told, rfl, rfl, rfl⟩

section Finished

variable (h : loop.Finished)
include h

theorem Finished.withdraw (told : after.quit = loop.quit)
    (hqueue : after.queue.Sublist loop.queue) (htimers : after.timers = loop.timers) :
    after.Finished := by
  rw [h.queue] at hqueue
  refine ⟨told.trans h.told, List.sublist_nil.1 hqueue, ?_, ?_⟩
  · rw [htimers, h.agenda]
  · rw [htimers, h.index]

theorem Finished.stopTimer (handler : HandlerId) (id : TimerId) :
    loop.stopTimer handler id = (false, loop) := by
  have unowned : loop.timers.owner? id = none := by
    simp [TimerSet.owner?, TimerSet.deadline?, h.index]
  unfold Loop.stopTimer
  rw [unowned, if_neg (Option.some_ne_none handler).symm]

theorem Finished.addTimer (handler : HandlerId) (now : Instant) (interval : Duration)
    (mode : TimerMode) : loop.addTimer handler now interval mode = (none, loop) :=
  addTimer_of_not_accepts _ _ _ _ _ (accepts_eq_false_of_quit h.told handler)

theorem Finished.stopAddTimer (handler : HandlerId) (old : TimerId) (now : Instant)
    (interval : Duration) (mode : TimerMode) :
    loop.stopAddTimer handler old now interval mode = (false, none, loop) := by
  unfold Loop.stopAddTimer
  rw [h.stopTimer]
  simp only [h.addTimer]

theorem Finished.beginRemoval (handler : HandlerId) (remover : Remover) :
    (loop.beginRemoval handler remover).2.Finished := by
  by_cases hremoved : loop.stateOf handler = .removed
  · rw [beginRemoval_of_removed _ hremoved]
    exact h
  · rw [beginRemoval_eq _ hremoved]
    refine h.withdraw rfl List.filter_sublist ?_
    show (loop.timers.eraseWhere (· = handler)).2 = loop.timers
    simp only [TimerSet.eraseWhere, h.agenda, List.filter_nil, List.foldl_nil]
    rw [← h.agenda]

end Finished

end Loop

/-- Whether the worker is leaving or has exited. -/
def WorkerPhase.isOver {ε : Type} : WorkerPhase ε -> Bool
  | .leaving _ | .exited => true
  | .choosing | .asleep _ | .calling _ => false

namespace Traffic

variable {ε : Type} {traffic next first last : Traffic ε}
  {past later : List (Move ε × Answer ε)} {move : Move ε} {answer : Answer ε}

/-- Whether a move tells the loop to quit: a thread stops it, or a callback fails. -/
def tellsQuit : Move ε -> Bool
  | .call caller _ .stop => caller ≠ .worker
  | .endCallback failure => failure.isSome
  | _ => false

/-- The handler of the callback that a step has ended. -/
def ends : Move ε × Answer ε -> Option HandlerId
  | (_, .ended handler _ _) => some handler
  | _ => none

/-- The handler whose callback the worker runs, if it runs one. -/
def running (traffic : Traffic ε) : Option HandlerId :=
  match traffic.eventLoop.phase with
  | .calling handler => some handler
  | _ => none

/-- What the worker says when it leaves. -/
def farewell : Answer ε -> Option (Farewell ε)
  | .round (.leave farewell) => some farewell
  | .ended _ _ farewell => farewell
  | _ => none

/-- The failure in which a move ends a callback, or the worker. -/
def fails : Move ε -> Option String
  | .endCallback failure | .exit failure => failure
  | _ => none

/-! ## Steps -/

theorem Step.quit_eq (step : Step traffic move answer next) :
    next.loop.quit = (traffic.loop.quit || tellsQuit move) := by
  -- Most sections leave the order to quit as it is.
  have same : tellsQuit move = false -> next.loop.quit = traffic.loop.quit ->
      next.loop.quit = (traffic.loop.quit || tellsQuit move) := by
    intro untold keeps
    rw [untold, Bool.or_false, keeps]
  cases step with
  | send => exact same rfl (Loop.quit_send ..)
  | addTimer => exact same rfl (Loop.quit_addTimer ..)
  | stopTimer => exact same rfl (Loop.quit_stopTimer ..)
  | stopAddTimer => exact same rfl ((Loop.quit_addTimer ..).trans (Loop.quit_stopTimer ..))
  | remove => exact same rfl (Loop.quit_beginRemoval ..)
  | removeBlocked => exact same rfl (Loop.quit_beginRemoval ..)
  | stop =>
      show traffic.loop.requestStop.quit = (traffic.loop.quit || true)
      rw [Loop.requestStop_eq, Bool.or_true]
  | failCallback => exact (Bool.or_true _).symm
  | _ => exact same rfl rfl

/-- When the loop has been told to quit, a step takes no work and begins no delivery, so
that the only callback there can be is the one that is running. -/
theorem Step.quiet (step : Step traffic move answer next) (told : traffic.loop.quit = true) :
    begins (move, answer) = none ∧ takesWork answer = false ∧
      (ends (move, answer)).toList ++ next.running.toList = traffic.running.toList := by
  have refused := Loop.accepts_eq_false_of_quit told
  have stays : begins (move, answer) = none -> takesWork answer = false ->
      ends (move, answer) = none -> next.eventLoop.phase = traffic.eventLoop.phase ->
      begins (move, answer) = none ∧ takesWork answer = false ∧
        (ends (move, answer)).toList ++ next.running.toList = traffic.running.toList := by
    intro unbegun idle unended phase
    refine ⟨unbegun, idle, ?_⟩
    rw [unended, running, running, phase]
    rfl
  have busy : traffic.loop.quit ≠ false := by
    rw [told]
    decide
  cases step with
  | send => exact stays rfl ((Loop.send_fst ..).trans (refused _)) rfl rfl
  | addTimer => exact stays rfl ((Loop.isSome_addTimer ..).trans (refused _)) rfl rfl
  | stopAddTimer =>
      refine stays rfl ?_ rfl rfl
      rw [← Loop.quit_stopTimer] at told
      exact (Loop.isSome_addTimer ..).trans (Loop.accepts_eq_false_of_quit told _)
  | leave choosing => exact ⟨rfl, rfl, by simp [ends, running, choosing]⟩
  | fire choosing untold => exact absurd untold busy
  | deliver choosing untold => exact absurd untold busy
  | again choosing flag untold => exact absurd untold busy
  | sleep choosing untold => exact absurd untold busy
  | wake sleeps => exact ⟨rfl, rfl, by simp [ends, running, sleeps]⟩
  | endCallback calls => exact ⟨rfl, rfl, by simp [ends, running, notify, calls]⟩
  | failCallback calls => exact ⟨rfl, rfl, by simp [ends, running, notify, calls]⟩
  | exit leaves => exact ⟨rfl, rfl, by simp [ends, running, EventLoop.exit, leaves]⟩
  | _ => exact stays rfl rfl rfl rfl

/-- When the loop has been told to quit, nothing is added to the queue. -/
theorem Step.queue_sublist (step : Step traffic move answer next)
    (told : traffic.loop.quit = true) : next.loop.queue.Sublist traffic.loop.queue := by
  have same : next.loop.queue = traffic.loop.queue ->
      next.loop.queue.Sublist traffic.loop.queue := by
    intro same
    simp only [same, List.Sublist.refl]
  have busy : traffic.loop.quit ≠ false := by
    rw [told]
    decide
  cases step with
  | send =>
      rw [Loop.send_of_not_accepts _ _ _ (Loop.accepts_eq_false_of_quit told _)]
      exact .refl _
  | addTimer => exact same (Loop.queue_addTimer ..)
  | stopTimer => exact same (Loop.queue_stopTimer ..)
  | stopAddTimer => exact same ((Loop.queue_addTimer ..).trans (Loop.queue_stopTimer ..))
  | filter => exact Filtering.kept_scan_sublist _ [] [] [] traffic.loop.queue
  | filterFor => exact Filtering.kept_scan_sublist _ [] [] [] traffic.loop.queue
  | remove => exact Loop.queue_beginRemoval_sublist ..
  | removeBlocked => exact Loop.queue_beginRemoval_sublist ..
  | stop =>
      refine same ?_
      show traffic.loop.requestStop.queue = traffic.loop.queue
      rw [Loop.requestStop_eq]
  | leave => exact List.nil_sublist _
  | fire choosing untold => exact absurd untold busy
  | deliver choosing untold => exact absurd untold busy
  | failCallback => exact List.nil_sublist _
  | _ => exact same rfl

theorem Step.finished (step : Step traffic move answer next) (h : traffic.loop.Finished) :
    next.loop.Finished := by
  cases step with
  | send =>
      rw [Loop.send_of_not_accepts _ _ _ (Loop.accepts_eq_false_of_quit h.told _)]
      exact h
  | addTimer =>
      rw [h.addTimer]
      exact h
  | stopTimer =>
      rw [h.stopTimer]
      exact h
  | stopAddTimer =>
      rw [h.stopAddTimer]
      exact h
  | filter =>
      exact h.withdraw rfl (Filtering.kept_scan_sublist _ [] [] [] traffic.loop.queue) rfl
  | filterFor =>
      exact h.withdraw rfl (Filtering.kept_scan_sublist _ [] [] [] traffic.loop.queue) rfl
  | remove => exact h.beginRemoval _ _
  | removeBlocked => exact h.beginRemoval _ _
  | stop =>
      show traffic.loop.requestStop.Finished
      rw [Loop.requestStop_eq]
      exact h.withdraw h.told.symm (.refl _) rfl
  | leave => exact Loop.finished_shutDown h.told
  | fire choosing untold => exact absurd (untold.symm.trans h.told) Bool.false_ne_true
  | deliver choosing untold => exact absurd (untold.symm.trans h.told) Bool.false_ne_true
  | failCallback => exact Loop.finished_shutDown rfl
  | _ => exact h.withdraw rfl (.refl _) rfl

theorem Step.failure_eq (step : Step traffic move answer next) :
    next.eventLoop.failure = (fails move).or traffic.eventLoop.failure := by
  cases step <;> rfl

/-- What becomes of the worker in a step. -/
inductive Passage (traffic next : Traffic ε) (move : Move ε) (answer : Answer ε) : Prop
  | on (before : traffic.eventLoop.phase.isOver = false)
      (after : next.eventLoop.phase.isOver = false) (silent : farewell answer = none)
      (fine : fails move = none)
  | leaves {parting : Farewell ε} (before : traffic.eventLoop.phase.isOver = false)
      (said : farewell answer = some parting) (all : parting.discarded = traffic.loop.queue)
      (after : next.eventLoop.phase = .leaving traffic.loop.queue)
      (finished : next.loop.Finished)
  | stays (isOver : traffic.eventLoop.phase.isOver = true)
      (same : next.eventLoop.phase = traffic.eventLoop.phase) (silent : farewell answer = none)
      (fine : fails move = none)
  | exits {failure : Option String} {discarded : List (QueuedEvent ε)}
      (made : move = .exit failure) (before : traffic.eventLoop.phase = .leaving discarded)
      (after : next.eventLoop.phase = .exited) (silent : farewell answer = none)

theorem Step.passage (step : Step traffic move answer next) :
    Passage traffic next move answer := by
  have on : traffic.eventLoop.phase.isOver = false -> next.eventLoop.phase.isOver = false ->
      farewell answer = none -> fails move = none -> Passage traffic next move answer := .on
  have same : next.eventLoop.phase = traffic.eventLoop.phase -> farewell answer = none ->
      fails move = none -> Passage traffic next move answer := by
    intro phase silent fine
    cases isOver : traffic.eventLoop.phase.isOver with
    | true => exact .stays isOver phase silent fine
    | false => exact .on isOver (phase ▸ isOver) silent fine
  cases step with
  | leave choosing told =>
      exact .leaves (by rw [choosing]; rfl) rfl rfl rfl (Loop.finished_shutDown told)
  | fire choosing => exact on (by rw [choosing]; rfl) rfl rfl rfl
  | deliver choosing => exact on (by rw [choosing]; rfl) rfl rfl rfl
  | again choosing => exact on (by rw [choosing]; rfl) rfl rfl rfl
  | sleep choosing => exact on (by rw [choosing]; rfl) rfl rfl rfl
  | wake sleeps => exact on (by rw [sleeps]; rfl) rfl rfl rfl
  | endCallback calls => exact on (by rw [calls]; rfl) rfl rfl rfl
  | failCallback calls =>
      exact .leaves (by rw [calls]; rfl) rfl rfl rfl (Loop.finished_shutDown rfl)
  | exit leaves => exact .exits rfl leaves rfl rfl
  | _ => exact same rfl rfl rfl

theorem Step.exited (step : Step traffic move answer next)
    (gone : traffic.eventLoop.phase = .exited) :
    next.eventLoop.phase = .exited ∧ next.eventLoop.failure = traffic.eventLoop.failure := by
  have isOver : traffic.eventLoop.phase.isOver = true := by
    rw [gone]
    rfl
  cases step.passage with
  | on before => exact absurd (before.symm.trans isOver) Bool.false_ne_true
  | leaves before => exact absurd (before.symm.trans isOver) Bool.false_ne_true
  | stays _ same _ fine =>
      have failure := step.failure_eq
      rw [fine] at failure
      exact ⟨same.trans gone, failure⟩
  | exits _ before => exact nomatch before.symm.trans gone

/-! ## Runs -/

theorem Reaches.quit (reaches : Reaches first later last) (told : first.loop.quit = true) :
    last.loop.quit = true := by
  refine reaches.preserves (P := fun traffic => traffic.loop.quit = true) ?_ told
  intro traffic next move answer told step
  rw [step.quit_eq, told, Bool.true_or]

/-- The order to quit is given by the steps that give it, and by nothing else. -/
theorem Runs.quit_iff (runs : Runs past traffic) :
    traffic.loop.quit = true ↔ ∃ step ∈ past, tellsQuit step.1 = true := by
  refine runs.induction (P := fun past traffic =>
    traffic.loop.quit = true ↔ ∃ step ∈ past, tellsQuit step.1 = true) ?_ ?_
  · intro eventLoop new choosing
    rw [loop, start, new]
    simp [Loop.new, LoopState.idle]
  · intro past traffic move answer next runs step ih
    rw [exists_mem_snoc, step.quit_eq, Bool.or_eq_true, ih]

/-- After the order to quit no delivery begins and no work is accepted, and the callbacks
that end are the one that was running, if it has ended. -/
theorem Reaches.quiet (reaches : Reaches first later last) (told : first.loop.quit = true) :
    (∀ step ∈ later, begins step = none ∧ takesWork step.2 = false) ∧
      later.filterMap ends ++ last.running.toList = first.running.toList := by
  induction reaches with
  | refl => exact ⟨fun _ hmem => absurd hmem List.not_mem_nil, rfl⟩
  | @snoc middle next past move answer reaches made ih =>
      obtain ⟨unbegun, idle, callbacks⟩ := (step_of_move? made).quiet (reaches.quit told)
      refine ⟨fun step hmem => ?_, ?_⟩
      · rcases List.mem_append.1 hmem with hmem | hmem
        · exact ih.1 step hmem
        · rw [List.mem_singleton.1 hmem]
          exact ⟨unbegun, idle⟩
      · rw [← ih.2, ← callbacks, List.filterMap_append, List.append_assoc]
        cases hends : ends (move, answer) <;> simp [hends]

/-- After a worker has left there is no callback. -/
theorem Reaches.silent (reaches : Reaches first later last) (told : first.loop.quit = true)
    (isOver : first.eventLoop.phase.isOver = true) :
    ∀ step ∈ later, begins step = none ∧ ends step = none := by
  obtain ⟨quiet, callbacks⟩ := reaches.quiet told
  have idle : first.running = none := by
    unfold running
    cases phase : first.eventLoop.phase with
    | calling =>
        rw [phase] at isOver
        exact absurd isOver Bool.false_ne_true
    | _ => rfl
  rw [idle] at callbacks
  have unended := List.filterMap_eq_nil_iff.1 (List.append_eq_nil_iff.1 callbacks).1
  exact fun step hmem => ⟨(quiet step hmem).1, unended step hmem⟩

theorem Reaches.isOver (reaches : Reaches first later last)
    (isOver : first.eventLoop.phase.isOver = true) : last.eventLoop.phase.isOver = true := by
  refine reaches.preserves (P := fun traffic => traffic.eventLoop.phase.isOver = true) ?_ isOver
  intro traffic next move answer isOver step
  cases step.passage with
  | on before => exact absurd (before.symm.trans isOver) Bool.false_ne_true
  | leaves before => exact absurd (before.symm.trans isOver) Bool.false_ne_true
  | stays _ same =>
      rw [same]
      exact isOver
  | exits _ _ after =>
      rw [after]
      rfl

theorem Runs.finished (runs : Runs past traffic)
    (isOver : traffic.eventLoop.phase.isOver = true) : traffic.loop.Finished := by
  refine runs.induction (P := fun _ traffic =>
    traffic.eventLoop.phase.isOver = true -> traffic.loop.Finished) ?_ ?_ isOver
  · intro eventLoop new choosing isOver
    rw [start, choosing] at isOver
    exact absurd isOver Bool.false_ne_true
  · intro past traffic move answer next runs step ih isOver
    cases step.passage with
    | on before after => exact absurd (after.symm.trans isOver) Bool.false_ne_true
    | leaves before said all after finished => exact finished
    | stays isOver' => exact step.finished (ih isOver')
    | exits made before => exact step.finished (ih (by rw [before]; rfl))

end Traffic

end Reactor
