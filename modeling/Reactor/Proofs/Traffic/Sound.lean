import Reactor.Proofs.Loop.Consistent
import Reactor.Proofs.Traffic.Run

/-!
# Sound traffic

`Sound` is what holds of the traffic in every state of every run.  It ties the
phase of the worker and the waiting threads to the mark of the running callback.
Each rule of `Step` keeps the traffic sound and takes no handler back in its
life, so runs do.
-/

namespace Reactor

namespace Traffic

variable {ε : Type} {first last traffic next : Traffic ε} {past : List (Move ε × Answer ε)}
  {move : Move ε} {answer : Answer ε}

/-! ## The invariant -/

structure Sound (traffic : Traffic ε) : Prop where
  loop : traffic.loop.Consistent
  agenda : traffic.loop.timers.Ordered
  unbound : ∀ handler, handler ∉ traffic.bound -> traffic.loop.stateOf handler = .constructed
  /-- The mark says whose callback the worker runs. -/
  marked : ∀ handler, traffic.eventLoop.phase = .calling handler ↔
    traffic.loop.marks handler = true
  blocked : traffic.blocked = traffic.loop.awaited
  notified : ∀ wait ∈ traffic.notified, traffic.loop.stateOf wait.2 = .removed

theorem sound_start {eventLoop : EventLoop ε} (new : eventLoop.loop = .new)
    (choosing : eventLoop.phase = .choosing) : (start eventLoop).Sound := by
  obtain ⟨name, loop, phase, failure, thread⟩ := eventLoop
  obtain rfl : loop = .new := new
  obtain rfl : phase = .choosing := choosing
  exact ⟨Loop.consistent_new, TimerSet.ordered_empty, fun _ _ => rfl,
    fun _ => ⟨fun calls => (nomatch calls), fun marks => (nomatch marks)⟩, rfl,
    fun _ hmem => absurd hmem List.not_mem_nil⟩

namespace Sound

variable (h : traffic.Sound)
include h

theorem active_eq_none (away : traffic.eventLoop.phase.Away) :
    traffic.loop.active = none := by
  cases hactive : traffic.loop.active with
  | none => rfl
  | some active =>
      have hmarks := Loop.marks_iff.2 ⟨active, hactive, rfl⟩
      exact absurd ((h.marked active.handler).2 hmarks) (away active.handler)

theorem blocked_eq_nil (away : traffic.eventLoop.phase.Away) :
    traffic.blocked = [] := by
  rw [h.blocked, Loop.awaited, h.active_eq_none away]

/-- Whoever waits, waits for the callback of a handler that is being removed. -/
theorem calling_of_mem_blocked {wait : ThreadId × HandlerId} (hmem : wait ∈ traffic.blocked) :
    traffic.eventLoop.phase = .calling wait.2 ∧ traffic.loop.stateOf wait.2 = .removing := by
  rw [h.blocked] at hmem
  refine ⟨(h.marked wait.2).2 (Loop.marks_of_mem_awaited hmem), ?_⟩
  unfold Loop.awaited at hmem
  split at hmem
  · next active hactive =>
      obtain ⟨thread, hthread, rfl⟩ := List.mem_map.1 hmem
      rcases h.loop.marked active hactive with ⟨-, hnone⟩ | hremoving
      · rw [hnone] at hthread
        exact absurd hthread List.not_mem_nil
      · exact hremoving
  · exact absurd hmem List.not_mem_nil

/-- No thread is left waiting without being among those that will be notified. -/
theorem mem_waiters_of_mem_blocked {wait : ThreadId × HandlerId}
    (hmem : wait ∈ traffic.blocked) : wait.1 ∈ traffic.loop.waiters := by
  rw [Loop.waiters_eq_awaited, ← h.blocked]
  exact List.mem_map_of_mem hmem

theorem not_calling_of_removed {handler : HandlerId}
    (hremoved : traffic.loop.stateOf handler = .removed) :
    traffic.eventLoop.phase ≠ .calling handler := by
  intro calls
  obtain ⟨active, hactive, rfl⟩ := Loop.marks_iff.1 ((h.marked handler).1 calls)
  rcases h.loop.marked active hactive with ⟨hstate, -⟩ | hstate <;>
    exact absurd (hstate.symm.trans hremoved) (by decide)

/-- A handler that is new is where no handler was. -/
theorem stateOf_bind {handler : HandlerId} (new : handler ∉ traffic.bound) (target : Target)
    (other : HandlerId) :
    (traffic.loop.bind handler target).stateOf other = traffic.loop.stateOf other := by
  rw [Loop.stateOf_bind]
  split
  · next same => rw [same, h.unbound handler new]
  · rfl

/-- A critical section that leaves the mark as it was, and touches bound handlers only. -/
theorem setLoop {loop : Loop ε} (consistent : loop.Consistent) (ordered : loop.timers.Ordered)
    (active : loop.active = traffic.loop.active) (advances : traffic.loop.Advances loop)
    (others : ∀ other, other ∉ traffic.bound ->
      loop.stateOf other = traffic.loop.stateOf other) : (traffic.setLoop loop).Sound where
  loop := consistent
  agenda := ordered
  unbound other hother := (others other hother).trans (h.unbound other hother)
  marked handler := by
    rw [phase_setLoop, h.marked handler, loop_setLoop, Loop.marks, Loop.marks, active]
  blocked := h.blocked.trans (Loop.awaited_of_active_eq active).symm
  notified wait hmem := advances.removed (h.notified wait hmem)

/-- A critical section of the worker outside of callbacks, after which no callback runs. -/
theorem onWorker {loop : Loop ε} {phase : WorkerPhase ε} {failure : Option String}
    (consistent : loop.Consistent) (ordered : loop.timers.Ordered)
    (before : traffic.eventLoop.phase.Away) (after : phase.Away)
    (active : loop.active = traffic.loop.active)
    (states : loop.stateOf = traffic.loop.stateOf) :
    { traffic with eventLoop := { traffic.eventLoop with loop, phase, failure } }.Sound where
  loop := consistent
  agenda := ordered
  unbound other hother := (congrFun states other).trans (h.unbound other hother)
  marked handler := by
    show phase = .calling handler ↔ loop.marks handler = true
    simp [after handler, Loop.marks, active, h.active_eq_none before]
  blocked := h.blocked.trans (Loop.awaited_of_active_eq active).symm
  notified wait hmem := (congrFun states wait.2).trans (h.notified wait hmem)

/-- The worker begins the callback of an active handler, for which it has taken work out. -/
theorem beginDelivery {loop : Loop ε} {handler : HandlerId} (consistent : loop.Consistent)
    (ordered : loop.timers.Ordered)
    (before : traffic.eventLoop.phase.Away)
    (active : loop.active = traffic.loop.active)
    (states : loop.stateOf = traffic.loop.stateOf)
    (hactive : traffic.loop.stateOf handler = .active) :
    (traffic.onWorker (loop.beginDelivery handler) (.calling handler)).Sound where
  loop := consistent.beginDelivery ((congrFun states handler).trans hactive)
    (active.trans (h.active_eq_none before))
  agenda := ordered
  unbound other hother := (congrFun states other).trans (h.unbound other hother)
  marked other := by
    simp [Loop.marks, Loop.beginDelivery]
  blocked := h.blocked_eq_nil before
  notified wait hmem := (congrFun states wait.2).trans (h.notified wait hmem)

theorem beginRemoval {handler : HandlerId} (remover : Remover)
    (known : handler ∈ traffic.bound) {blocked : List (ThreadId × HandlerId)}
    (waiting : blocked = (traffic.loop.beginRemoval handler remover).2.awaited) :
    { traffic.setLoop (traffic.loop.beginRemoval handler remover).2 with blocked }.Sound where
  loop := h.loop.beginRemoval handler remover
  agenda := Loop.ordered_beginRemoval h.agenda handler remover
  unbound other hother := by
    have hne : other ≠ handler := fun same => hother (same ▸ known)
    exact (Loop.stateOf_beginRemoval other remover).trans
      ((if_neg hne).trans (h.unbound other hother))
  marked other := (h.marked other).trans (by rw [← Loop.marks_beginRemoval other remover]; rfl)
  blocked := waiting
  notified wait hmem := (Loop.advances_beginRemoval _ _ _).removed (h.notified wait hmem)

/-- The end of a callback completes the removals that wait for it. -/
theorem removed_of_ended {handler : HandlerId} (calls : traffic.eventLoop.phase = .calling handler)
    {wait : ThreadId × HandlerId} (hmem : wait ∈ traffic.blocked) :
    wait.2 = handler ∧ (traffic.loop.endDelivery handler).2.stateOf handler = .removed := by
  obtain ⟨hcalls, hremoving⟩ := h.calling_of_mem_blocked hmem
  have same : wait.2 = handler := by
    rw [calls] at hcalls
    cases hcalls
    rfl
  rw [same] at hremoving
  refine ⟨same, ?_⟩
  rw [Loop.stateOf_endDelivery, if_pos rfl, hremoving]
  rfl

theorem blocked_after_notify :
    (traffic.blocked.filter fun wait => wait.1 ∉ traffic.loop.waiters) = [] := by
  rw [List.filter_eq_nil_iff]
  intro wait hmem
  simpa using h.mem_waiters_of_mem_blocked hmem

theorem notified_by_notify :
    (traffic.blocked.filter fun wait => wait.1 ∈ traffic.loop.waiters) = traffic.blocked := by
  rw [List.filter_eq_self]
  intro wait hmem
  simpa using h.mem_waiters_of_mem_blocked hmem

/-- The worker ends a callback, whatever it does then. -/
theorem endCallback {handler : HandlerId} (calls : traffic.eventLoop.phase = .calling handler)
    {loop : Loop ε} {phase : WorkerPhase ε} {failure : Option String}
    (consistent : loop.Consistent) (ordered : loop.timers.Ordered) (unmarked : loop.active = none)
    (states : loop.stateOf = (traffic.loop.endDelivery handler).2.stateOf)
    (after : phase.Away) :
    ({ traffic with eventLoop := { traffic.eventLoop with loop, phase, failure } }.notify
      traffic.loop.waiters).Sound where
  loop := consistent
  agenda := ordered
  unbound other hother := by
    refine (congrFun states other).trans ?_
    rw [Loop.stateOf_endDelivery]
    split
    · next same => rw [← same, h.unbound other hother]; rfl
    · exact h.unbound other hother
  marked other := by
    show phase = .calling other ↔ loop.marks other = true
    simp [after other, Loop.marks, unmarked]
  blocked := by
    refine h.blocked_after_notify.trans ?_
    show [] = loop.awaited
    rw [Loop.awaited, unmarked]
  notified wait hmem := by
    refine (congrFun states wait.2).trans ?_
    rcases List.mem_append.1 hmem with hold | hnew
    · exact (Loop.advances_endDelivery _ _).removed (h.notified wait hold)
    · rw [h.notified_by_notify] at hnew
      obtain ⟨same, hremoved⟩ := h.removed_of_ended calls hnew
      rw [same, hremoved]

end Sound

/-! ## Steps -/

/-- No step takes a handler back in its life. -/
theorem Step.advances (step : Step traffic move answer next) (h : traffic.Sound) :
    traffic.loop.Advances next.loop := by
  cases step with
  | bind new => exact .of_stateOf_eq (h.stateOf_bind new _)
  | complete => exact .of_stateOf_eq (Loop.stateOf_complete _ _)
  | lose => exact .of_stateOf_eq (Loop.stateOf_lose _ _)
  | send => exact Loop.advances_send _ _ _
  | addTimer => exact Loop.advances_addTimer _ _ _ _ _
  | stopTimer => exact .of_stateOf_eq (Loop.stateOf_stopTimer _ _ · _)
  | stopAddTimer => exact Loop.advances_stopAddTimer _ _ _ _ _ _
  | filter => exact .refl _
  | filterFor => exact .refl _
  | remove => exact Loop.advances_beginRemoval _ _ _
  | removeBlocked => exact Loop.advances_beginRemoval _ _ _
  | stop => exact Loop.advances_requestStop _
  | stopRefused => exact .refl _
  | resume => exact .refl _
  | resumeLost => exact Loop.advances_finishRemoval _ _
  | join => exact .refl _
  | leave => exact .refl _
  | fire => exact .refl _
  | deliver => exact .refl _
  | again => exact .refl _
  | sleep => exact .refl _
  | wake => exact .refl _
  | endCallback => exact Loop.advances_endDelivery _ _
  | failCallback => exact Loop.advances_endDelivery _ _
  | exit => exact .refl _

theorem Sound.step (h : traffic.Sound) (step : Step traffic move answer next) : next.Sound := by
  have advances := step.advances h
  cases step with
  | bind new =>
      have states := h.stateOf_bind new
      refine ⟨h.loop.bind _ (h.unbound _ new), h.agenda, ?_, h.marked, h.blocked, ?_⟩
      · intro other hother
        exact (states _ other).trans (h.unbound other fun hmem => hother (.tail _ hmem))
      · intro wait hmem
        exact (states _ wait.2).trans (h.notified wait hmem)
  | complete =>
      exact h.setLoop (h.loop.complete _) h.agenda rfl advances fun other _ =>
        Loop.stateOf_complete _ _ other
  | lose =>
      exact h.setLoop (h.loop.lose _) h.agenda rfl advances fun other _ =>
        Loop.stateOf_lose _ _ other
  | send able known =>
      refine h.setLoop (h.loop.send _ _) ?_ (Loop.active_send ..) advances ?_
      · rw [Loop.timers_send]
        exact h.agenda
      · intro other hother
        rw [Loop.stateOf_send, if_neg]
        exact fun both => hother (both.2 ▸ known)
  | addTimer able known =>
      refine h.setLoop (h.loop.addTimer _ _ _ _) (Loop.ordered_addTimer h.agenda _ _ _ _)
        (Loop.active_addTimer ..) advances ?_
      intro other hother
      rw [Loop.stateOf_addTimer, if_neg]
      exact fun both => hother (both.2 ▸ known)
  | stopTimer able known =>
      exact h.setLoop (h.loop.stopTimer _ _) (Loop.ordered_stopTimer h.agenda _ _)
        (Loop.active_stopTimer ..) advances fun other _ => Loop.stateOf_stopTimer _ _ other _
  | stopAddTimer able known =>
      refine h.setLoop (h.loop.stopAddTimer _ _ _ _ _)
        (Loop.ordered_addTimer (Loop.ordered_stopTimer h.agenda _ _) _ _ _ _)
        ((Loop.active_addTimer ..).trans (Loop.active_stopTimer ..)) advances ?_
      intro other hother
      unfold Loop.stopAddTimer
      rw [Loop.stateOf_addTimer, if_neg, Loop.stateOf_stopTimer]
      exact fun both => hother (both.2 ▸ known)
  | filter able =>
      exact h.setLoop (h.loop.filter _ _) h.agenda rfl advances fun _ _ => rfl
  | filterFor able known =>
      exact h.setLoop (h.loop.filter _ _) h.agenda rfl advances fun _ _ => rfl
  | @remove caller now handler able known free =>
      refine h.beginRemoval caller known ?_
      rw [Loop.awaited_beginRemoval, h.blocked]
      cases caller with
      | worker => simp [Loop.detained]
      | thread id => simp [free id rfl]
  | @removeBlocked id now handler known held =>
      refine h.beginRemoval (.thread id) known ?_
      rw [Loop.awaited_beginRemoval, if_pos held, h.blocked]
      rfl
  | stop =>
      rw [Loop.requestStop_eq]
      exact ⟨⟨h.loop.queued, h.loop.armed, h.loop.marked, h.loop.removing⟩, h.agenda, h.unbound,
        h.marked, h.blocked, h.notified⟩
  | stopRefused able => exact h
  | resume told =>
      refine ⟨h.loop, h.agenda, h.unbound, h.marked, h.blocked, ?_⟩
      intro wait hmem
      exact h.notified wait (List.mem_of_mem_erase hmem)
  | resumeLost waits lost => exact absurd (h.mem_waiters_of_mem_blocked waits) lost
  | join stops gone => exact ⟨h.loop, h.agenda, h.unbound, h.marked, h.blocked, h.notified⟩
  | leave choosing told =>
      have away : traffic.eventLoop.phase.Away := choosing ▸ .choosing
      exact h.onWorker h.loop.shutDown .nil away (.leaving _) rfl rfl
  | @fire now id handler timers choosing untold due =>
      obtain ⟨timer, hmem, rfl⟩ := TimerSet.exists_mem_of_popExpired due
      have consistent : { traffic.loop with timers }.Consistent :=
        h.loop.withdraw (fun _ hmem => hmem)
          (fun _ hmem => TimerSet.exists_owner_of_mem_popExpired due hmem) rfl fun _ => rfl
      have ordered : timers.Ordered := TimerSet.ordered_popExpired h.agenda due
      have away : traffic.eventLoop.phase.Away := choosing ▸ .choosing
      exact h.beginDelivery consistent ordered away rfl rfl (h.loop.armed timer hmem)
  | @deliver now entry queue choosing untold undue oldest =>
      have consistent : { traffic.loop with queue }.Consistent := by
        refine h.loop.withdraw (fun other hmem => ?_) (fun timer hmem => ⟨timer, hmem, rfl⟩) rfl
          fun _ => rfl
        rw [oldest]
        exact .tail _ hmem
      have queued : entry ∈ traffic.loop.queue := oldest ▸ .head _
      have away : traffic.eventLoop.phase.Away := choosing ▸ .choosing
      exact h.beginDelivery consistent h.agenda away rfl rfl (h.loop.queued entry queued)
  | again choosing flag =>
      have away : traffic.eventLoop.phase.Away := choosing ▸ .choosing
      exact h.onWorker h.loop.consumeSignal h.agenda away .choosing rfl rfl
  | sleep choosing untold undue empty noFlag =>
      have away : traffic.eventLoop.phase.Away := choosing ▸ .choosing
      exact h.onWorker h.loop h.agenda away (.asleep _) rfl rfl
  | wake sleeps roused =>
      have away : traffic.eventLoop.phase.Away := sleeps ▸ .asleep _
      exact h.onWorker h.loop.consumeSignal h.agenda away .choosing rfl rfl
  | endCallback calls =>
      have ended := h.loop.endDelivery ((h.marked _).1 calls)
      exact h.endCallback calls ended h.agenda rfl rfl .choosing
  | failCallback calls =>
      have ended := h.loop.endDelivery ((h.marked _).1 calls)
      exact h.endCallback calls ended.quit.shutDown .nil rfl rfl (.leaving _)
  | exit leaves =>
      have away : traffic.eventLoop.phase.Away := leaves ▸ .leaving _
      exact h.onWorker h.loop h.agenda away .exited rfl rfl

/-! ## Runs are sound -/

theorem Reaches.sound (reaches : Reaches first past last) (h : first.Sound) : last.Sound :=
  reaches.preserves Sound.step h

theorem Runs.sound (runs : Runs past traffic) : traffic.Sound := by
  obtain ⟨name, stackSize, eventLoop, started, reaches⟩ := runs
  obtain ⟨new, choosing⟩ := of_started name stackSize started
  exact reaches.sound (sound_start new choosing)

theorem Reaches.advances (reaches : Reaches first past last) (h : first.Sound) :
    first.loop.Advances last.loop := by
  induction reaches with
  | refl => exact .refl _
  | snoc reaches made ih => exact ih.trans ((step_of_move? made).advances (reaches.sound h))

end Traffic

end Reactor
