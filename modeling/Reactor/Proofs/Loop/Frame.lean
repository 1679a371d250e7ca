import Reactor.Loop.Basic
import Reactor.Proofs.Timer.Agenda

/-!
# What the critical sections of a loop touch

For each critical section: what it does to the states of the handlers, to the
queue, to the timers and to the mark of the running callback, and what of these
it leaves alone.  Proofs about loops cite these statements and do not open the
critical sections themselves, except where one of them accepts work or refuses
it.
-/

namespace Reactor

namespace Loop

variable {ε σ : Type}

/-- How far a handler has come in its loop. -/
def stateOf (loop : Loop ε) (handler : HandlerId) : HandlerState :=
  (loop.slots handler).state

theorem accepts_iff {loop : Loop ε} {handler : HandlerId} :
    loop.accepts handler = true ↔
      loop.quit = false ∧ (loop.stateOf handler).acceptsWork = true := by
  simp [accepts, stateOf, HandlerSlot.acceptsWork]

/-! ## Slots -/

section Slots

variable (loop : Loop ε) (handler other : HandlerId) (f : HandlerSlot -> HandlerSlot)

@[simp] theorem queue_updateSlot : (loop.updateSlot handler f).queue = loop.queue := rfl

@[simp] theorem active_updateSlot : (loop.updateSlot handler f).active = loop.active := rfl

theorem slots_updateSlot :
    (loop.updateSlot handler f).slots other =
      if other = handler then f (loop.slots handler) else loop.slots other := rfl

theorem stateOf_updateSlot :
    (loop.updateSlot handler f).stateOf other =
      if other = handler then (f (loop.slots handler)).state else loop.stateOf other := by
  simp only [stateOf, slots_updateSlot]
  split <;> rfl

theorem stateOf_bind (target : Target) :
    (loop.bind handler target).stateOf other =
      if other = handler then .constructed else loop.stateOf other :=
  stateOf_updateSlot ..

@[simp] theorem stateOf_complete :
    (loop.complete handler).stateOf other = loop.stateOf other := by
  unfold complete
  rw [stateOf_updateSlot]
  split
  · next same => rw [same]; rfl
  · rfl

@[simp] theorem stateOf_lose : (loop.lose handler).stateOf other = loop.stateOf other := by
  unfold lose
  rw [stateOf_updateSlot]
  split
  · next same => rw [same]; rfl
  · rfl

theorem stateOf_finishRemoval :
    (loop.finishRemoval handler).stateOf other =
      if other = handler then (loop.stateOf handler).afterCallback
      else loop.stateOf other :=
  stateOf_updateSlot ..

end Slots

/-! ## Accepting work -/

theorem activated_of_accepts {loop : Loop ε} {handler : HandlerId}
    (h : loop.accepts handler = true) : (loop.stateOf handler).activated = .active := by
  have hstate := (accepts_iff.1 h).2
  cases hs : loop.stateOf handler with
  | constructed => rfl
  | active => rfl
  | removing => simp [hs, HandlerState.acceptsWork] at hstate
  | removed => simp [hs, HandlerState.acceptsWork] at hstate

section Accepting

variable (loop : Loop ε) (handler other : HandlerId) (event : ε) (now : Instant)
  (interval : Duration) (mode : TimerMode)

theorem send_fst : (loop.send handler event).1 = loop.accepts handler := by
  unfold send
  split
  · next h => exact h.symm
  · next h => exact (Bool.eq_false_iff.2 h).symm

theorem send_of_not_accepts (h : loop.accepts handler = false) :
    loop.send handler event = (false, loop) := by
  unfold send
  rw [if_neg (Bool.eq_false_iff.1 h)]

theorem queue_send_of_accepts (h : loop.accepts handler = true) :
    (loop.send handler event).2.queue = loop.queue ++ [⟨handler, event⟩] := by
  unfold send
  rw [if_pos h]

theorem signalled_send_of_accepts (h : loop.accepts handler = true) :
    (loop.send handler event).2.signalled = (loop.signalled || loop.queue.isEmpty) := by
  unfold send
  rw [if_pos h]

@[simp] theorem timers_send : (loop.send handler event).2.timers = loop.timers := by
  unfold send
  split <;> rfl

@[simp] theorem active_send : (loop.send handler event).2.active = loop.active := by
  unfold send
  split <;> rfl

@[simp] theorem quit_send : (loop.send handler event).2.quit = loop.quit := by
  unfold send
  split <;> rfl

theorem stateOf_send :
    (loop.send handler event).2.stateOf other =
      if loop.accepts handler = true ∧ other = handler then .active
      else loop.stateOf other := by
  by_cases h : loop.accepts handler = true
  · have hstate : (loop.send handler event).2.stateOf other =
        (loop.updateSlot handler .activate).stateOf other := by
      unfold send
      rw [if_pos h]
      rfl
    rw [hstate, stateOf_updateSlot]
    by_cases same : other = handler
    · rw [if_pos same, if_pos ⟨h, same⟩]
      exact activated_of_accepts h
    · rw [if_neg same, if_neg fun both => same both.2]
  · have refused : loop.accepts handler = false := Bool.eq_false_iff.2 h
    rw [send_of_not_accepts _ _ _ refused, if_neg fun both => h both.1]

theorem addTimer_of_not_accepts (h : loop.accepts handler = false) :
    loop.addTimer handler now interval mode = (none, loop) := by
  unfold addTimer
  rw [if_neg (Bool.eq_false_iff.1 h)]

theorem isSome_addTimer :
    (loop.addTimer handler now interval mode).1.isSome = loop.accepts handler := by
  unfold addTimer
  split
  · next h => exact h.symm
  · next h => exact (Bool.eq_false_iff.2 h).symm

theorem timers_addTimer_of_accepts (h : loop.accepts handler = true) :
    (loop.addTimer handler now interval mode).2.timers =
      (loop.timers.insert handler now interval mode).2.2 := by
  unfold addTimer
  rw [if_pos h]

theorem signalled_addTimer_of_accepts (h : loop.accepts handler = true) :
    (loop.addTimer handler now interval mode).2.signalled =
      (loop.signalled || (loop.timers.insert handler now interval mode).2.1) := by
  unfold addTimer
  rw [if_pos h]

@[simp] theorem queue_addTimer :
    (loop.addTimer handler now interval mode).2.queue = loop.queue := by
  unfold addTimer
  split <;> rfl

@[simp] theorem active_addTimer :
    (loop.addTimer handler now interval mode).2.active = loop.active := by
  unfold addTimer
  split <;> rfl

@[simp] theorem quit_addTimer :
    (loop.addTimer handler now interval mode).2.quit = loop.quit := by
  unfold addTimer
  split <;> rfl

theorem stateOf_addTimer :
    (loop.addTimer handler now interval mode).2.stateOf other =
      if loop.accepts handler = true ∧ other = handler then .active
      else loop.stateOf other := by
  by_cases h : loop.accepts handler = true
  · have hstate : (loop.addTimer handler now interval mode).2.stateOf other =
        (loop.updateSlot handler .activate).stateOf other := by
      unfold addTimer
      rw [if_pos h]
      rfl
    rw [hstate, stateOf_updateSlot]
    by_cases same : other = handler
    · rw [if_pos same, if_pos ⟨h, same⟩]
      exact activated_of_accepts h
    · rw [if_neg same, if_neg fun both => same both.2]
  · have refused : loop.accepts handler = false := Bool.eq_false_iff.2 h
    rw [addTimer_of_not_accepts _ _ _ _ _ refused, if_neg fun both => h both.1]

end Accepting

/-! ## Giving work up -/

section Withdrawing

variable (loop : Loop ε) (handler other : HandlerId) (id : TimerId)

theorem stopTimer_snd :
    (loop.stopTimer handler id).2 =
      { loop with timers := (loop.stopTimer handler id).2.timers } := by
  unfold stopTimer
  split <;> rfl

@[simp] theorem queue_stopTimer : (loop.stopTimer handler id).2.queue = loop.queue := by
  rw [stopTimer_snd]

@[simp] theorem active_stopTimer : (loop.stopTimer handler id).2.active = loop.active := by
  rw [stopTimer_snd]

@[simp] theorem quit_stopTimer : (loop.stopTimer handler id).2.quit = loop.quit := by
  rw [stopTimer_snd]

@[simp] theorem signalled_stopTimer :
    (loop.stopTimer handler id).2.signalled = loop.signalled := by
  rw [stopTimer_snd]

@[simp] theorem stateOf_stopTimer :
    (loop.stopTimer handler id).2.stateOf other = loop.stateOf other := by
  rw [stopTimer_snd]
  rfl

theorem agenda_stopTimer_sublist :
    (loop.stopTimer handler id).2.timers.agenda.Sublist loop.timers.agenda := by
  unfold stopTimer
  split
  · exact TimerSet.agenda_erase_sublist loop.timers id
  · exact List.Sublist.refl _

theorem filter_snd (visit : Visit σ ε) (state : σ) :
    (loop.filter visit state).2 =
      { loop with queue := (loop.filter visit state).1.kept } :=
  rfl

theorem requestStop_eq :
    loop.requestStop =
      { loop with quit := true, signalled := loop.signalled || !loop.quit } := by
  unfold requestStop
  split
  · next told =>
      obtain ⟨⟨queue, timers, active, quit⟩, slots, signalled⟩ := loop
      simp_all
  · next untold => simp [untold]

end Withdrawing

/-! ## Removal -/

/-- Who has to wait if a removal finds the callback of its handler running. -/
def detained : Remover -> List ThreadId
  | .worker => []
  | .thread id => [id]

/-- Whether the callback of a handler is marked as running. -/
def marks (loop : Loop ε) (handler : HandlerId) : Bool :=
  loop.active.any fun active => active.handler = handler

theorem marks_iff {loop : Loop ε} {handler : HandlerId} :
    loop.marks handler = true ↔
      ∃ active, loop.active = some active ∧ active.handler = handler := by
  unfold marks
  cases loop.active <;> simp

theorem marks_unique {loop : Loop ε} {handler other : HandlerId}
    (h : loop.marks handler = true) (h' : loop.marks other = true) : handler = other := by
  obtain ⟨active, hactive, rfl⟩ := marks_iff.1 h
  obtain ⟨active', hactive', rfl⟩ := marks_iff.1 h'
  rw [hactive] at hactive'
  cases hactive'
  rfl

/-- Threads that wait for the running callback to end, each with the handler it removes. -/
def awaited (loop : Loop ε) : List (ThreadId × HandlerId) :=
  match loop.active with
  | some active => active.waiters.map fun thread => (thread, active.handler)
  | none => []

theorem awaited_of_active_eq {loop other : Loop ε} (h : other.active = loop.active) :
    other.awaited = loop.awaited := by
  unfold awaited
  rw [h]

theorem waiters_eq_awaited (loop : Loop ε) : loop.waiters = loop.awaited.map Prod.fst := by
  unfold waiters awaited
  cases loop.active with
  | none => rfl
  | some active => simp [Function.comp_def]

theorem marks_of_mem_awaited {loop : Loop ε} {wait : ThreadId × HandlerId}
    (h : wait ∈ loop.awaited) : loop.marks wait.2 = true := by
  unfold awaited at h
  split at h
  · next active hactive =>
      obtain ⟨thread, _, rfl⟩ := List.mem_map.1 h
      exact marks_iff.2 ⟨active, hactive, rfl⟩
  · exact absurd h List.not_mem_nil

/-- The loop when the work of a handler has been taken back from it. -/
def withdrawn (loop : Loop ε) (handler : HandlerId) (remover : Remover) : Loop ε :=
  { loop with
    queue := loop.queue.filter fun entry => entry.handler ≠ handler
    timers := (loop.timers.eraseWhere (· = handler)).2
    active := loop.active.map fun active =>
      if active.handler = handler then
        { active with waiters := active.waiters ++ detained remover }
      else
        active }

section Removing

variable {loop : Loop ε} {handler : HandlerId} (other : HandlerId) (remover : Remover)

theorem beginRemoval_of_removed (h : loop.stateOf handler = .removed) :
    loop.beginRemoval handler remover = (none, loop) := by
  unfold beginRemoval
  exact if_pos h

/-- A removal takes the work of its handler back, and then it is complete unless
the callback of the handler is running. -/
theorem beginRemoval_eq (h : loop.stateOf handler ≠ .removed) :
    loop.beginRemoval handler remover =
      (some ⟨loop.queue.filter fun entry => entry.handler = handler,
          (loop.timers.eraseWhere (· = handler)).1,
          loop.marks handler && !(detained remover).isEmpty⟩,
        (loop.withdrawn handler remover).updateSlot handler
          (·.setState (if loop.marks handler then .removing else .removed))) := by
  have hstate : ¬ (loop.slots handler).state = .removed := h
  unfold beginRemoval marks withdrawn
  rw [if_neg hstate]
  cases hactive : loop.active with
  | none => simp [LoopState.purge, LoopState.disarmAll, updateSlot, hactive]
  | some active =>
      obtain ⟨marked, waiters⟩ := active
      by_cases hmark : marked = handler
      · subst hmark
        cases remover <;>
          simp [LoopState.purge, LoopState.disarmAll, updateSlot, hactive, detained]
      · simp [LoopState.purge, LoopState.disarmAll, updateSlot, hactive, hmark]

theorem waiting_beginRemoval {removal : Removal ε}
    (h : (loop.beginRemoval handler remover).1 = some removal) :
    removal.waiting = (loop.marks handler && !(detained remover).isEmpty) := by
  by_cases hremoved : loop.stateOf handler = .removed
  · rw [beginRemoval_of_removed _ hremoved] at h
    cases h
  · rw [beginRemoval_eq _ hremoved] at h
    cases h
    rfl

theorem stateOf_beginRemoval :
    (loop.beginRemoval handler remover).2.stateOf other =
      if other = handler then
        if loop.stateOf handler ≠ .removed ∧ loop.marks handler = true then .removing
        else .removed
      else loop.stateOf other := by
  by_cases h : loop.stateOf handler = .removed
  · rw [beginRemoval_of_removed _ h]
    by_cases same : other = handler
    · simp [same, h]
    · simp [same]
  · rw [beginRemoval_eq _ h, stateOf_updateSlot]
    by_cases same : other = handler
    · rw [if_pos same, if_pos same]
      cases loop.marks handler <;> simp [h, HandlerSlot.setState]
    · rw [if_neg same, if_neg same]
      rfl

@[simp] theorem marks_beginRemoval :
    (loop.beginRemoval handler remover).2.marks other = loop.marks other := by
  by_cases h : loop.stateOf handler = .removed
  · rw [beginRemoval_of_removed _ h]
  · rw [beginRemoval_eq _ h]
    unfold marks withdrawn
    rw [active_updateSlot]
    cases loop.active with
    | none => rfl
    | some active =>
        simp only [Option.map_some, Option.any_some]
        split <;> rfl

@[simp] theorem quit_beginRemoval : (loop.beginRemoval handler remover).2.quit = loop.quit := by
  by_cases h : loop.stateOf handler = .removed
  · rw [beginRemoval_of_removed _ h]
  · rw [beginRemoval_eq _ h]
    rfl

theorem queue_beginRemoval_sublist :
    (loop.beginRemoval handler remover).2.queue.Sublist loop.queue := by
  by_cases h : loop.stateOf handler = .removed
  · simp only [beginRemoval_of_removed _ h, List.Sublist.refl]
  · rw [beginRemoval_eq _ h]
    exact List.filter_sublist

theorem awaited_beginRemoval :
    (loop.beginRemoval handler remover).2.awaited =
      loop.awaited ++
        if (loop.beginRemoval handler remover).1.any (·.waiting) then
          (detained remover).map fun thread => (thread, handler)
        else
          [] := by
  by_cases h : loop.stateOf handler = .removed
  · rw [beginRemoval_of_removed _ h]
    simp
  rw [beginRemoval_eq _ h]
  unfold awaited withdrawn marks
  rw [active_updateSlot]
  cases loop.active with
  | none => simp
  | some active =>
      by_cases same : active.handler = handler
      · cases remover <;> simp [same, detained]
      · simp [same]

end Removing

/-! ## Delivery -/

section Delivering

variable (loop : Loop ε) (handler other : HandlerId)

theorem stateOf_endDelivery :
    (loop.endDelivery handler).2.stateOf other =
      if other = handler then (loop.stateOf handler).afterCallback
      else loop.stateOf other :=
  stateOf_updateSlot ..

end Delivering

/-- What the worker finds to do, and what it leaves of the loop. -/
inductive Finds (loop : Loop ε) (now : Instant) : Work ε -> Loop ε -> Prop
  /-- The order to quit comes before everything else. -/
  | quit (told : loop.quit = true) : Finds loop now .quit loop
  | timer {id : TimerId} {handler : HandlerId} {timers : TimerSet HandlerId}
      (untold : loop.quit = false)
      (due : loop.timers.popExpired now = some ((id, handler), timers)) :
      Finds loop now (.timer id handler) { loop with timers }
  | event {entry : QueuedEvent ε} {queue : List (QueuedEvent ε)}
      (untold : loop.quit = false) (undue : loop.timers.popExpired now = none)
      (oldest : loop.queue = entry :: queue) :
      Finds loop now (.event entry) { loop with queue }
  | waitUntil {deadline : Instant}
      (untold : loop.quit = false) (undue : loop.timers.popExpired now = none)
      (empty : loop.queue = []) (next : loop.timers.nextDeadline = some deadline) :
      Finds loop now (.waitUntil deadline) loop
  | wait (untold : loop.quit = false) (undue : loop.timers.popExpired now = none)
      (empty : loop.queue = []) (next : loop.timers.nextDeadline = none) :
      Finds loop now .wait loop

theorem finds_nextWork (loop : Loop ε) (now : Instant) :
    loop.Finds now (loop.nextWork now).1 (loop.nextWork now).2 := by
  by_cases hquit : loop.quit = true
  · have hwork : loop.nextWork now = (.quit, loop) := by
      simp [nextWork, LoopState.nextWork, hquit]
    rw [hwork]
    exact .quit hquit
  have huntold : loop.quit = false := Bool.eq_false_iff.2 hquit
  cases hdue : loop.timers.popExpired now with
  | some taken =>
      obtain ⟨⟨id, handler⟩, timers⟩ := taken
      have hwork : loop.nextWork now = (.timer id handler, { loop with timers }) := by
        simp [nextWork, LoopState.nextWork, hquit, hdue]
      rw [hwork]
      exact .timer huntold hdue
  | none =>
      cases hqueue : loop.queue with
      | cons entry queue =>
          have hwork : loop.nextWork now = (.event entry, { loop with queue }) := by
            simp [nextWork, LoopState.nextWork, hquit, hdue, hqueue]
          rw [hwork]
          exact .event huntold hdue hqueue
      | nil =>
          cases hnext : loop.timers.nextDeadline with
          | some deadline =>
              have hwork : loop.nextWork now = (.waitUntil deadline, loop) := by
                simp [nextWork, LoopState.nextWork, hquit, hdue, hqueue, hnext]
              rw [hwork]
              exact .waitUntil huntold hdue hqueue hnext
          | none =>
              have hwork : loop.nextWork now = (.wait, loop) := by
                simp [nextWork, LoopState.nextWork, hquit, hdue, hqueue, hnext]
              rw [hwork]
              exact .wait huntold hdue hqueue hnext

end Loop

end Reactor
