import Reactor.Proofs.Traffic.Quit
import Reactor.Proofs.Traffic.Removal

/-!
# Failed callbacks

The critical section in which a callback ends in a failure is the last one in
which the worker has anything to do with handlers.  It ends the delivery as any
other end would, and gives up all work.  Who comes later is answered at once: a
removal is complete, and work is rejected.
-/

namespace Reactor

namespace Traffic

variable {ε : Type} {traffic next : Traffic ε} {past : List (Move ε × Answer ε)}
  {move : Move ε} {answer : Answer ε}

/-- What the end of a callback in a failure does, all in one critical section. -/
structure Collapse (past : List (Move ε × Answer ε)) (before after : Traffic ε)
    (handler : HandlerId) : Prop where
  calls : before.eventLoop.phase = .calling handler
  /-- The loop is told to quit, and there is no work in it. -/
  finished : after.loop.Finished
  active : after.loop.active = none
  /-- All that waited for the end of the callback have been notified. -/
  blocked : after.blocked = []
  notified : after.notified = before.notified ++ before.blocked
  leaves : after.eventLoop.phase = .leaving before.loop.queue
  removed : IsRemoved past handler ->
    after.loop.slots handler = (before.loop.slots handler).setState .removed
  unremoved : ¬ IsRemoved past handler ->
    after.loop.slots handler = before.loop.slots handler
  others : ∀ other, other ≠ handler -> after.loop.slots other = before.loop.slots other

theorem Runs.collapse {message : String} (runs : Runs past traffic)
    (step : Step traffic (.endCallback (some message)) answer next) :
    ∃ handler, Collapse past traffic next handler := by
  have sound := runs.sound
  cases step with
  | @failCallback handler _ calls =>
      have told := (runs.tells handler).eq_iff RemovedInside.isRemoved
      -- The handler is active, or its removal was called for during the callback.
      have inside : traffic.loop.stateOf handler = .active ∨
          traffic.loop.stateOf handler = .removing := by
        obtain ⟨active, hactive, rfl⟩ := Loop.marks_iff.1 ((sound.marked handler).1 calls)
        exact (sound.loop.marked active hactive).imp_left And.left
      have slot : (traffic.loop.endDelivery handler).2.slots handler =
          (traffic.loop.slots handler).setState (traffic.loop.stateOf handler).afterCallback :=
        (Loop.slots_updateSlot ..).trans (if_pos rfl)
      refine ⟨handler, calls, Loop.finished_shutDown rfl, rfl, sound.blocked_after_notify, ?_, rfl,
        ?_, ?_, ?_⟩
      · exact congrArg (traffic.notified ++ ·) sound.notified_by_notify
      · intro removed
        rcases inside with hs | hs
        · exact absurd removed (told.2.1.1 hs).2
        · rw [hs] at slot
          exact slot
      · intro unremoved
        rcases inside with hs | hs
        · have same : (traffic.loop.slots handler).setState (traffic.loop.stateOf handler) =
            traffic.loop.slots handler := rfl
          rw [hs] at slot same
          exact slot.trans same
        · exact absurd (told.2.2.1.1 hs).isRemoved unremoved
      · intro other hne
        exact (Loop.slots_updateSlot ..).trans (if_neg hne)

/-- Every call of a handler is answered at once, and whatever it asks for is refused. -/
structure Refuses (traffic : Traffic ε) : Prop where
  sends : ∀ caller now handler event, traffic.canCall caller = true -> handler ∈ traffic.bound ->
    traffic.move? (.call caller now (.send handler event)) = some (.sent false, traffic)
  arms : ∀ caller now handler interval mode, traffic.canCall caller = true ->
    handler ∈ traffic.bound ->
    traffic.move? (.call caller now (.addTimer handler interval mode)) = some (.armed none, traffic)
  rearms : ∀ caller now handler old interval mode, traffic.canCall caller = true ->
    handler ∈ traffic.bound ->
    traffic.move? (.call caller now (.stopAddTimer handler old interval mode)) =
      some (.replaced false none, traffic)
  /-- Nobody who removes a handler has to wait. -/
  removes : ∀ caller now handler, traffic.canCall caller = true -> handler ∈ traffic.bound ->
    ∃ removal next, traffic.move? (.call caller now (.remove handler)) =
        some (.removed removal, next) ∧
      removal.any (·.waiting) = false ∧ next.blocked = traffic.blocked ∧
      next.loop.stateOf handler = .removed
  /-- Who has waited for the end of a callback can go on. -/
  resumes : ∀ wait ∈ traffic.notified, traffic.loop.stateOf wait.2 = .removed ∧
    ∃ next, traffic.move? (.resume wait.1 wait.2) = some (.resumed true, next)

theorem move?_call {caller : Remover} {call : Call ε} {handler : HandlerId} (now : Instant)
    (able : traffic.canCall caller = true) (known : handler ∈ traffic.bound)
    (through : call.handler? = some handler) :
    traffic.move? (.call caller now call) = some (traffic.call caller now call) := by
  have both : traffic.canCall caller = true ∧ call.handler?.all (· ∈ traffic.bound) = true := by
    refine ⟨able, ?_⟩
    rw [through]
    exact decide_eq_true known
  simp only [move?]
  rw [if_pos both]

theorem Sound.refuses (h : traffic.Sound) (finished : traffic.loop.Finished)
    (isOver : traffic.eventLoop.phase.isOver = true) : traffic.Refuses where
  sends caller now handler event able known := by
    rw [move?_call now able known rfl, Traffic.call, Loop.send_of_not_accepts]
    · rfl
    · exact Loop.accepts_eq_false_of_quit finished.told handler
  arms caller now handler interval mode able known := by
    rw [move?_call now able known rfl, Traffic.call, finished.addTimer]
    rfl
  rearms caller now handler old interval mode able known := by
    rw [move?_call now able known rfl, Traffic.call, finished.stopAddTimer]
    rfl
  removes caller now handler able known := by
    have away : traffic.eventLoop.phase.Away := by
      intro other calls
      rw [calls] at isOver
      exact absurd isOver Bool.false_ne_true
    have unmarked : traffic.loop.marks handler = false := by
      rw [Loop.marks, h.active_eq_none away]
      rfl
    have free : (traffic.loop.beginRemoval handler caller).1.any (·.waiting) = false := by
      cases hremoval : (traffic.loop.beginRemoval handler caller).1 with
      | none => rfl
      | some removal => simp [Loop.waiting_beginRemoval _ hremoval, unmarked]
    have removed := Loop.removed_beginRemoval caller unmarked
    refine ⟨_, traffic.setLoop (traffic.loop.beginRemoval handler caller).2, ?_, free, rfl, removed⟩
    rw [move?_call now able known rfl]
    cases caller <;> simp [Traffic.call, free]
  resumes wait hmem := by
    refine ⟨h.notified wait hmem, { traffic with notified := traffic.notified.erase wait }, ?_⟩
    simp only [move?]
    rw [if_pos hmem]

end Traffic

end Reactor
