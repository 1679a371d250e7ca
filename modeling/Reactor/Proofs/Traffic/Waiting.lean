import Reactor.Proofs.Traffic.Sound

/-!
# Threads that wait for a removal

A thread that removes a handler whose callback is running waits for the end of
this callback.  Every such wait ends with the callback, in the order in which
the waits began, and the thread then finds the removal complete.
-/

namespace Reactor

namespace Traffic

variable {ε : Type} {traffic next : Traffic ε} {past : List (Move ε × Answer ε)}
  {move : Move ε} {answer : Answer ε}

/-- The wait that a step begins. -/
def begun : Move ε × Answer ε -> List (ThreadId × HandlerId)
  | (.call caller _ (.remove handler), .removed (some removal)) =>
      if removal.waiting then (Loop.detained caller).map fun thread => (thread, handler) else []
  | _ => []

/-- The waits that a step ends. -/
def ended : Move ε × Answer ε -> List (ThreadId × HandlerId)
  | (_, .ended handler released _) => released.map fun thread => (thread, handler)
  | _ => []

/-- The wait after which a thread goes on. -/
def left : Move ε × Answer ε -> List (ThreadId × HandlerId)
  | (.resume thread handler, _) => [(thread, handler)]
  | _ => []

theorem Sound.map_waiters {handler : HandlerId} (h : traffic.Sound)
    (calls : traffic.eventLoop.phase = .calling handler) :
    (traffic.loop.waiters.map fun thread => (thread, handler)) = traffic.blocked := by
  rw [h.blocked]
  obtain ⟨active, hactive, rfl⟩ := Loop.marks_iff.1 ((h.marked handler).1 calls)
  simp [Loop.waiters, Loop.awaited, hactive]

/-- A wait begins behind those that go on, and the first to begin are the first to end. -/
theorem Step.waits (step : Step traffic move answer next) (h : traffic.Sound) :
    traffic.blocked ++ begun (move, answer) = ended (move, answer) ++ next.blocked := by
  cases step with
  | @remove caller now handler able known free =>
      cases hremoval : (traffic.loop.beginRemoval handler caller).1 with
      | none => exact List.append_nil _
      | some removal =>
          cases caller with
          | worker => simp [begun, ended, setLoop, Loop.detained]
          | thread id =>
              have hwaiting : removal.waiting = false := by simpa [hremoval] using free id rfl
              simp [begun, ended, setLoop, hwaiting]
  | @removeBlocked id now handler known held =>
      generalize (traffic.loop.beginRemoval handler (.thread id)).1 = removal at held
      cases removal with
      | none => cases held
      | some removal =>
          have hwaiting : removal.waiting = true := held
          simp [begun, ended, hwaiting, Loop.detained]
  | resumeLost waits lost => exact absurd (h.mem_waiters_of_mem_blocked waits) lost
  | endCallback calls =>
      show traffic.blocked ++ [] = traffic.loop.waiters.map _ ++ traffic.blocked.filter _
      rw [h.map_waiters calls, h.blocked_after_notify]
  | failCallback calls =>
      show traffic.blocked ++ [] = traffic.loop.waiters.map _ ++ traffic.blocked.filter _
      rw [h.map_waiters calls, h.blocked_after_notify]
  | _ => exact List.append_nil _

/-- A thread whose wait has ended goes on once. -/
theorem Step.leaves (step : Step traffic move answer next) (h : traffic.Sound) :
    (traffic.notified ++ ended (move, answer)).Perm (left (move, answer) ++ next.notified) := by
  cases step with
  | resume told =>
      show (traffic.notified ++ []).Perm (_ :: traffic.notified.erase _)
      rw [List.append_nil]
      exact List.perm_cons_erase told
  | resumeLost waits lost => exact absurd (h.mem_waiters_of_mem_blocked waits) lost
  | endCallback calls =>
      show (traffic.notified ++ traffic.loop.waiters.map _).Perm
        (traffic.notified ++ traffic.blocked.filter _)
      rw [h.map_waiters calls, h.notified_by_notify]
  | failCallback calls =>
      show (traffic.notified ++ traffic.loop.waiters.map _).Perm
        (traffic.notified ++ traffic.blocked.filter _)
      rw [h.map_waiters calls, h.notified_by_notify]
  | _ => exact .of_eq (List.append_nil _)

theorem Runs.waits (runs : Runs past traffic) :
    past.flatMap begun = past.flatMap ended ++ traffic.blocked := by
  refine runs.induction (P := fun past traffic =>
    past.flatMap begun = past.flatMap ended ++ traffic.blocked) (fun _ _ => rfl) ?_
  intro past traffic move answer next runs step ih
  rw [List.flatMap_append, List.flatMap_append, ih, List.flatMap_singleton, List.flatMap_singleton,
    List.append_assoc, List.append_assoc, step.waits runs.sound]

theorem Runs.leaves (runs : Runs past traffic) :
    (past.flatMap ended).Perm (past.flatMap left ++ traffic.notified) := by
  refine runs.induction (P := fun past traffic =>
    (past.flatMap ended).Perm (past.flatMap left ++ traffic.notified)) (fun _ _ => .refl _) ?_
  intro past traffic move answer next runs step ih
  rw [List.flatMap_append, List.flatMap_append, List.flatMap_singleton, List.flatMap_singleton]
  refine (ih.append_right _).trans ?_
  rw [List.append_assoc, List.append_assoc]
  exact (step.leaves runs.sound).append_left _

/-- No thread is left waiting for the end of a callback. -/
structure Attended (past : List (Move ε × Answer ε)) (traffic : Traffic ε) : Prop where
  /-- A thread that waits is among those that will be notified, for the handler it removes. -/
  marked : ∀ wait ∈ traffic.blocked, ∃ active, traffic.loop.active = some active ∧
    active.handler = wait.2 ∧ wait.1 ∈ active.waiters
  /-- No thread waits when no callback runs, so none does when the worker has exited. -/
  idle : (∀ handler, traffic.eventLoop.phase ≠ .calling handler) -> traffic.blocked = []
  /-- The worker does not wait for itself. -/
  worker : ∀ now handler answer next,
    traffic.move? (.call .worker now (.remove handler)) = some (answer, next) ->
      next.blocked = traffic.blocked ∧
        ∀ removal, answer = .removed (some removal) -> removal.waiting = false
  /-- The end of a callback, in whatever way it ends, notifies all that wait, and they
  wait for a handler that is removed then. -/
  release : ∀ failure answer next, traffic.move? (.endCallback failure) = some (answer, next) ->
    next.blocked = [] ∧ next.notified = traffic.notified ++ traffic.blocked ∧
      ∃ handler farewell, answer = .ended handler (traffic.blocked.map Prod.fst) farewell ∧
        ∀ wait ∈ traffic.blocked, wait.2 = handler ∧ next.loop.stateOf handler = .removed
  /-- Every wait that has begun has ended once, or goes on. -/
  once : past.flatMap begun = past.flatMap ended ++ traffic.blocked
  /-- After every wait that has ended its thread has gone on once, or can go on. -/
  onward : (past.flatMap ended).Perm (past.flatMap left ++ traffic.notified)
  /-- Nobody goes on without having been notified, or before the removal is complete. -/
  resumed : ∀ thread handler answer next,
    traffic.move? (.resume thread handler) = some (answer, next) ->
      answer = .resumed true ∧ traffic.loop.stateOf handler = .removed ∧
        next.loop = traffic.loop

/-- No thread that removes a handler is left waiting, in any state of any run. -/
theorem no_remover_is_left_waiting (runs : Runs past traffic) : Attended past traffic where
  marked wait hmem := by
    have hmark := runs.sound.calling_of_mem_blocked hmem
    obtain ⟨active, hactive, same⟩ := Loop.marks_iff.1 ((runs.sound.marked _).1 hmark.1)
    refine ⟨active, hactive, same, ?_⟩
    have hwaiter := runs.sound.mem_waiters_of_mem_blocked hmem
    simpa [Loop.waiters, hactive] using hwaiter
  idle away := runs.sound.blocked_eq_nil away
  worker now handler answer next made := by
    cases step_of_move? made with
    | remove able known free =>
        refine ⟨rfl, fun removal hremoval => ?_⟩
        rw [Loop.waiting_beginRemoval .worker (Answer.removed.inj hremoval)]
        exact Bool.and_false _
  release failure answer next made := by
    have hnames : traffic.loop.waiters = traffic.blocked.map Prod.fst := by
      rw [Loop.waiters_eq_awaited, runs.sound.blocked]
    rw [← hnames]
    cases step_of_move? made with
    | endCallback calls =>
        exact ⟨runs.sound.blocked_after_notify,
          congrArg (traffic.notified ++ ·) runs.sound.notified_by_notify, _, none, rfl,
          fun wait hmem => runs.sound.removed_of_ended calls hmem⟩
    | failCallback calls =>
        exact ⟨runs.sound.blocked_after_notify,
          congrArg (traffic.notified ++ ·) runs.sound.notified_by_notify, _, some _, rfl,
          fun wait hmem => runs.sound.removed_of_ended calls hmem⟩
  once := runs.waits
  onward := runs.leaves
  resumed thread handler answer next made := by
    cases step_of_move? made with
    | resume told => exact ⟨rfl, runs.sound.notified _ told, rfl⟩
    | resumeLost waits lost => exact absurd (runs.sound.mem_waiters_of_mem_blocked waits) lost

/-- Two threads that remove one handler both wait for its callback. -/
theorem two_removers_wait :
    ∃ (past : List (Move Nat × Answer Nat)) (traffic : Traffic Nat), Runs past traffic ∧
      traffic.blocked = [(⟨1⟩, ⟨0⟩), (⟨2⟩, ⟨0⟩)] ∧ Attended past traffic := by
  have runs : Runs _ _ := runs_of_moves? "worker" none
    [.bind ⟨0⟩ .alive, .call (.thread ⟨1⟩) .first (.send ⟨0⟩ (7 : Nat)), .round .first,
      .call (.thread ⟨1⟩) .first (.remove ⟨0⟩), .call (.thread ⟨2⟩) .first (.remove ⟨0⟩)] rfl rfl
  exact ⟨_, _, runs, rfl, no_remover_is_left_waiting runs⟩

end Traffic

end Reactor
