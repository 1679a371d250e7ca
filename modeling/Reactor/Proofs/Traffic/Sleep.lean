import Reactor.Proofs.Traffic.Sound

/-!
# The sleep of the worker

A worker falls asleep when it has found nothing to do before some deadline.
What comes up later than that sets its flag, unless the flag is set already or
what comes up can wait for the deadline.  So the worker never sleeps through
anything.
-/

namespace Reactor

namespace Loop

variable {ε σ : Type} {loop after : Loop ε} {deadline : Option Instant}

/-- A worker that sleeps until the deadline has nothing to do before. -/
structure Restful (loop : Loop ε) (deadline : Option Instant) : Prop where
  untold : loop.quit = false
  empty : loop.queue = []
  /-- Without a deadline there is no timer. -/
  undue : ∀ timer ∈ loop.timers.agenda, ∃ d, deadline = some d ∧ d <= timer.deadline

/-- The worker is told to wake up, or may sleep until the deadline. -/
def Alert (loop : Loop ε) (deadline : Option Instant) : Prop :=
  loop.signalled = true ∨ loop.Restful deadline

theorem restful_nextDeadline (ordered : loop.timers.Ordered) (untold : loop.quit = false)
    (empty : loop.queue = []) : loop.Restful loop.timers.nextDeadline where
  untold := untold
  empty := empty
  undue timer hmem := by
    cases hnext : loop.timers.nextDeadline with
    | some d => exact ⟨d, rfl, TimerSet.nextDeadline_le ordered hnext hmem⟩
    | none =>
        rw [TimerSet.nextDeadline_eq_none_iff.1 hnext] at hmem
        exact absurd hmem List.not_mem_nil

section Alert

variable (h : loop.Alert deadline)
include h

/-- Giving work up is nothing to wake the worker for. -/
theorem Alert.withdraw (hsignalled : after.signalled = loop.signalled)
    (hquit : after.quit = loop.quit) (hqueue : after.queue.Sublist loop.queue)
    (hagenda : after.timers.agenda.Sublist loop.timers.agenda) : after.Alert deadline := by
  rcases h with flag | rest
  · exact .inl (hsignalled.trans flag)
  · refine .inr ⟨hquit.trans rest.untold, ?_, fun timer hmem => ?_⟩
    · rw [rest.empty] at hqueue
      exact List.sublist_nil.1 hqueue
    · exact rest.undue timer (hagenda.subset hmem)

/-- An event that comes into an empty queue wakes the worker. -/
theorem Alert.send (handler : HandlerId) (event : ε) :
    (loop.send handler event).2.Alert deadline := by
  by_cases haccepts : loop.accepts handler = true
  · refine .inl ?_
    rw [signalled_send_of_accepts _ _ _ haccepts]
    rcases h with flag | rest
    · rw [flag, Bool.true_or]
    · rw [rest.empty]
      exact Bool.or_true _
  · have refused : loop.accepts handler = false := Bool.eq_false_iff.2 haccepts
    rw [send_of_not_accepts _ _ _ refused]
    exact h

/-- A timer that does not wake the worker is due after one that the worker knows of. -/
theorem Alert.addTimer (handler : HandlerId) (now : Instant) (interval : Duration)
    (mode : TimerMode) : (loop.addTimer handler now interval mode).2.Alert deadline := by
  by_cases haccepts : loop.accepts handler = true
  · rcases h with flag | rest
    · refine .inl ?_
      rw [signalled_addTimer_of_accepts _ _ _ _ _ haccepts, flag, Bool.true_or]
    cases hearliest : (loop.timers.insert handler now interval mode).2.1 with
    | true =>
        refine .inl ?_
        rw [signalled_addTimer_of_accepts _ _ _ _ _ haccepts, hearliest, Bool.or_true]
    | false =>
        refine .inr ⟨(quit_addTimer ..).trans rest.untold, (queue_addTimer ..).trans rest.empty, ?_⟩
        intro timer hmem
        rw [timers_addTimer_of_accepts _ _ _ _ _ haccepts] at hmem
        rcases TimerSet.mem_agenda_insert.1 hmem with rfl | hold
        · obtain ⟨known, hknown, hlate⟩ := TimerSet.exists_le_of_not_earliest hearliest
          obtain ⟨d, hdeadline, hd⟩ := rest.undue known hknown
          exact ⟨d, hdeadline, Nat.le_trans hd hlate⟩
        · exact rest.undue timer hold
  · have refused : loop.accepts handler = false := Bool.eq_false_iff.2 haccepts
    rw [addTimer_of_not_accepts _ _ _ _ _ refused]
    exact h

theorem Alert.stopTimer (handler : HandlerId) (id : TimerId) :
    (loop.stopTimer handler id).2.Alert deadline := by
  refine h.withdraw (signalled_stopTimer ..) (quit_stopTimer ..) ?_
    (agenda_stopTimer_sublist loop handler id)
  simp only [queue_stopTimer, List.Sublist.refl]

theorem Alert.filter (visit : Visit σ ε) (state : σ) :
    (loop.filter visit state).2.Alert deadline :=
  h.withdraw rfl rfl (Filtering.kept_scan_sublist visit state [] [] loop.queue) (.refl _)

theorem Alert.beginRemoval (handler : HandlerId) (remover : Remover) :
    (loop.beginRemoval handler remover).2.Alert deadline := by
  by_cases hremoved : loop.stateOf handler = .removed
  · rw [beginRemoval_of_removed _ hremoved]
    exact h
  · rw [beginRemoval_eq _ hremoved]
    exact h.withdraw rfl rfl List.filter_sublist List.filter_sublist

theorem Alert.requestStop : loop.requestStop.Alert deadline := by
  rw [requestStop_eq]
  refine .inl ?_
  rcases h with flag | rest
  · simp [flag]
  · simp [rest.untold]

end Alert

end Loop

namespace Traffic

variable {ε : Type} {traffic next : Traffic ε} {past : List (Move ε × Answer ε)}
  {move : Move ε} {answer : Answer ε} {deadline : Option Instant}

/-- A worker that sleeps has not missed anything. -/
def Watchful (traffic : Traffic ε) : Prop :=
  ∀ deadline, traffic.eventLoop.phase = .asleep deadline -> traffic.loop.Alert deadline

theorem watchful_start (eventLoop : EventLoop ε) (choosing : eventLoop.phase = .choosing) :
    (start eventLoop).Watchful := by
  intro deadline asleep
  exact nomatch choosing.symm.trans asleep

theorem Watchful.step (h : traffic.Watchful) (sound : traffic.Sound)
    (step : Step traffic move answer next) : next.Watchful := by
  intro deadline asleep
  cases step with
  | bind => exact (h deadline asleep).withdraw rfl rfl (.refl _) (.refl _)
  | complete => exact (h deadline asleep).withdraw rfl rfl (.refl _) (.refl _)
  | lose => exact (h deadline asleep).withdraw rfl rfl (.refl _) (.refl _)
  | send => exact (h deadline asleep).send _ _
  | addTimer => exact (h deadline asleep).addTimer _ _ _ _
  | stopTimer => exact (h deadline asleep).stopTimer _ _
  | stopAddTimer => exact ((h deadline asleep).stopTimer _ _).addTimer _ _ _ _
  | filter => exact (h deadline asleep).filter _ _
  | filterFor => exact (h deadline asleep).filter _ _
  | remove => exact (h deadline asleep).beginRemoval _ _
  | removeBlocked => exact (h deadline asleep).beginRemoval _ _
  | stop => exact (h deadline asleep).requestStop
  | stopRefused => exact h deadline asleep
  | resume => exact h deadline asleep
  | resumeLost => exact (h deadline asleep).withdraw rfl rfl (.refl _) (.refl _)
  | join => exact h deadline asleep
  | again => exact nomatch asleep
  | sleep choosing untold undue empty noFlag =>
      cases asleep
      exact .inr (Loop.restful_nextDeadline sound.agenda untold empty)
  | leave => exact nomatch asleep
  | fire => exact nomatch asleep
  | deliver => exact nomatch asleep
  | wake => exact nomatch asleep
  | endCallback => exact nomatch asleep
  | failCallback => exact nomatch asleep
  | exit => exact nomatch asleep

theorem Runs.watchful (runs : Runs past traffic) : traffic.Watchful :=
  runs.induction (P := fun _ traffic => traffic.Watchful)
    (fun _ choosing => watchful_start _ choosing) fun runs step h => h.step runs.sound step

/-- A worker whose flag is set can wake up, takes the flag off and looks again. -/
theorem exists_wake (asleep : traffic.eventLoop.phase = .asleep deadline)
    (flag : traffic.loop.signalled = true) (now : Instant) :
    ∃ awake, traffic.move? (.wake now) = some (.done, awake) ∧
      awake.eventLoop.phase = .choosing ∧ awake.loop = traffic.loop.consumeSignal := by
  refine ⟨traffic.onWorker traffic.loop.consumeSignal .choosing, ?_, rfl, rfl⟩
  simp [move?, EventLoop.wake?, asleep, flag, onWorker]

theorem exists_round (choosing : traffic.eventLoop.phase = .choosing) (now : Instant) :
    ∃ round next, traffic.move? (.round now) = some (.round round, next) := by
  simp [move?, choosing]

/-- While the worker sleeps with its flag off there is no order to quit, no event and no
timer that is due before the worker wakes up by itself.  So if there is anything of that
kind, the flag is set, and the worker can wake up at any time and look for work again. -/
theorem sleeping_worker_misses_nothing (runs : Runs past traffic)
    (asleep : traffic.eventLoop.phase = .asleep deadline) :
    (traffic.loop.signalled = false ->
      traffic.loop.quit = false ∧ traffic.loop.queue = [] ∧
        (deadline = none ∧ traffic.loop.timers.agenda = [] ∨
          ∃ d, deadline = some d ∧ ∀ timer ∈ traffic.loop.timers.agenda, d <= timer.deadline)) ∧
    (traffic.loop.quit = true ∨ traffic.loop.queue ≠ [] ∨
        (∃ timer ∈ traffic.loop.timers.agenda, ∀ d, deadline = some d -> timer.deadline < d) ->
      traffic.loop.signalled = true ∧
        ∀ now, ∃ awake, traffic.move? (.wake now) = some (.done, awake) ∧
          awake.loop = traffic.loop.consumeSignal ∧
          ∀ later, ∃ round next, awake.move? (.round later) = some (.round round, next)) := by
  have alert := runs.watchful deadline asleep
  refine ⟨fun noFlag => ?_, fun work => ?_⟩
  · rcases alert with flag | rest
    · exact absurd (flag.symm.trans noFlag) (by decide)
    · refine ⟨rest.untold, rest.empty, ?_⟩
      cases deadline with
      | none =>
          refine .inl ⟨rfl, List.eq_nil_iff_forall_not_mem.2 fun timer hmem => ?_⟩
          obtain ⟨d, hnone, -⟩ := rest.undue timer hmem
          cases hnone
      | some d =>
          refine .inr ⟨d, rfl, fun timer hmem => ?_⟩
          obtain ⟨d', hsome, hd⟩ := rest.undue timer hmem
          cases hsome
          exact hd
  · have flag : traffic.loop.signalled = true := by
      rcases alert with flag | rest
      · exact flag
      rcases work with told | event | ⟨timer, hmem, early⟩
      · exact absurd (told.symm.trans rest.untold) (by decide)
      · exact absurd rest.empty event
      · obtain ⟨d, hdeadline, hd⟩ := rest.undue timer hmem
        exact absurd (early d hdeadline) (Nat.not_lt.2 hd)
    refine ⟨flag, fun now => ?_⟩
    obtain ⟨awake, made, choosing, hloop⟩ := exists_wake asleep flag now
    exact ⟨awake, made, hloop, fun later => exists_round choosing later⟩

/-- A worker that has fallen asleep for good is told of the event that is posted then. -/
theorem event_rouses_sleeping_worker :
    ∃ (past : List (Move Nat × Answer Nat)) (traffic : Traffic Nat), Runs past traffic ∧
      traffic.eventLoop.phase = .asleep none ∧ traffic.loop.queue ≠ [] ∧
      traffic.loop.signalled = true := by
  have runs : Runs _ _ := runs_of_moves? "worker" none
    [.bind ⟨0⟩ .alive, .round .first, .call (.thread ⟨1⟩) .first (.send ⟨0⟩ (7 : Nat))] rfl rfl
  have event := List.cons_ne_nil (⟨⟨0⟩, 7⟩ : QueuedEvent Nat) []
  have nothing_missed := sleeping_worker_misses_nothing runs rfl
  exact ⟨_, _, runs, rfl, event, (nothing_missed.2 (.inr (.inl event))).1⟩

end Traffic

end Reactor
