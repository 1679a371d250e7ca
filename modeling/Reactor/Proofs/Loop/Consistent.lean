import Reactor.Proofs.Loop.Frame
import Reactor.Proofs.Loop.Unpicked

/-!
# Consistent loops

In a consistent loop only active handlers have work, the running callback is one
of a handler that is active or being removed, and a handler is being removed
only while its callback runs.  Every critical section keeps a loop consistent
and takes no handler back in its life.
-/

namespace Reactor

namespace Loop

variable {ε σ : Type}

/-- No work is left for a handler. -/
structure Clear (loop : Loop ε) (handler : HandlerId) : Prop where
  queue : ∀ entry ∈ loop.queue, entry.handler ≠ handler
  timers : ∀ timer ∈ loop.timers.agenda, timer.owner ≠ handler

structure Consistent (loop : Loop ε) : Prop where
  queued : ∀ entry ∈ loop.queue, loop.stateOf entry.handler = .active
  armed : ∀ timer ∈ loop.timers.agenda, loop.stateOf timer.owner = .active
  /-- Threads wait for a callback only if its handler is being removed. -/
  marked : ∀ active, loop.active = some active ->
    loop.stateOf active.handler = .active ∧ active.waiters = [] ∨
      loop.stateOf active.handler = .removing
  removing : ∀ handler, loop.stateOf handler = .removing -> loop.marks handler = true

theorem Consistent.clear {loop : Loop ε} (h : loop.Consistent) {handler : HandlerId}
    (hstate : loop.stateOf handler ≠ .active) : loop.Clear handler where
  queue entry hmem same := hstate (same ▸ h.queued entry hmem)
  timers timer hmem same := hstate (same ▸ h.armed timer hmem)

theorem consistent_new : (new : Loop ε).Consistent where
  queued _ hmem := absurd hmem List.not_mem_nil
  armed _ hmem := absurd hmem List.not_mem_nil
  marked _ hactive := nomatch hactive
  removing _ hstate := nomatch hstate

/-! ## Two kinds of change -/

/-- A loop that has lost some of its work, and nothing else, stays consistent. -/
theorem Consistent.withdraw {loop after : Loop ε} (h : loop.Consistent)
    (hqueue : ∀ entry ∈ after.queue, entry ∈ loop.queue)
    (htimers : ∀ timer ∈ after.timers.agenda,
      ∃ other ∈ loop.timers.agenda, other.owner = timer.owner)
    (hactive : after.active = loop.active)
    (hstate : ∀ handler, after.stateOf handler = loop.stateOf handler) :
    after.Consistent where
  queued entry hmem := (hstate _).trans (h.queued entry (hqueue entry hmem))
  armed timer hmem := by
    obtain ⟨other, hother, howner⟩ := htimers timer hmem
    rw [hstate, ← howner]
    exact h.armed other hother
  marked active hmark := by
    rw [hstate]
    exact h.marked active (hactive ▸ hmark)
  removing handler hremoving := by
    have hmark := h.removing handler ((hstate handler).symm.trans hremoving)
    rwa [marks, hactive]

/-- A loop stays consistent where work comes in for a handler that it accepts
work for, and the handler is active then. -/
theorem Consistent.accept {loop after : Loop ε} (h : loop.Consistent)
    {handler : HandlerId} (haccepts : loop.accepts handler = true)
    (hqueue : ∀ entry ∈ after.queue, entry ∈ loop.queue ∨ entry.handler = handler)
    (htimers : ∀ timer ∈ after.timers.agenda,
      timer ∈ loop.timers.agenda ∨ timer.owner = handler)
    (hactive : after.active = loop.active)
    (hstate : ∀ other, after.stateOf other =
      if other = handler then .active else loop.stateOf other) :
    after.Consistent := by
  -- A handler that was active before is active now, whichever it is.
  have hkeep : ∀ other, loop.stateOf other = .active -> after.stateOf other = .active := by
    intro other hother
    rw [hstate]
    split
    · rfl
    · exact hother
  refine ⟨?_, ?_, ?_, ?_⟩
  · intro entry hmem
    rcases hqueue entry hmem with hold | hnew
    · exact hkeep _ (h.queued entry hold)
    · rw [hstate, if_pos hnew]
  · intro timer hmem
    rcases htimers timer hmem with hold | hnew
    · exact hkeep _ (h.armed timer hold)
    · rw [hstate, if_pos hnew]
  · intro active hmark
    rcases h.marked active (hactive ▸ hmark) with ⟨hold, hnone⟩ | hremoving
    · exact .inl ⟨hkeep _ hold, hnone⟩
    · refine .inr ?_
      have hne : active.handler ≠ handler := by
        intro same
        have hwork := (accepts_iff.1 haccepts).2
        rw [← same, hremoving] at hwork
        exact nomatch hwork
      rw [hstate, if_neg hne]
      exact hremoving
  · intro other hremoving
    rw [hstate] at hremoving
    split at hremoving
    · exact nomatch hremoving
    · rw [marks, hactive]
      exact h.removing other hremoving

/-! ## The critical sections -/

section Sections

variable {loop : Loop ε} (h : loop.Consistent)
include h

theorem Consistent.bind {handler : HandlerId} (target : Target)
    (hnew : loop.stateOf handler = .constructed) : (loop.bind handler target).Consistent := by
  refine h.withdraw (fun _ hmem => hmem) (fun timer hmem => ⟨timer, hmem, rfl⟩) rfl ?_
  intro other
  rw [stateOf_bind]
  split
  · next same => rw [same, hnew]
  · rfl

theorem Consistent.complete (handler : HandlerId) : (loop.complete handler).Consistent :=
  h.withdraw (fun _ hmem => hmem) (fun timer hmem => ⟨timer, hmem, rfl⟩) rfl
    (stateOf_complete loop handler)

theorem Consistent.lose (handler : HandlerId) : (loop.lose handler).Consistent :=
  h.withdraw (fun _ hmem => hmem) (fun timer hmem => ⟨timer, hmem, rfl⟩) rfl
    (stateOf_lose loop handler)

theorem Consistent.send (handler : HandlerId) (event : ε) :
    (loop.send handler event).2.Consistent := by
  by_cases haccepts : loop.accepts handler = true
  · refine h.accept haccepts ?_ ?_ (active_send ..) ?_
    · intro entry hmem
      rw [queue_send_of_accepts _ _ _ haccepts] at hmem
      rcases List.mem_append.1 hmem with hold | hnew
      · exact .inl hold
      · rw [List.mem_singleton.1 hnew]
        exact .inr rfl
    · intro timer hmem
      rw [timers_send] at hmem
      exact .inl hmem
    · intro other
      simp [stateOf_send, haccepts]
  · have refused : loop.accepts handler = false := Bool.eq_false_iff.2 haccepts
    rw [send_of_not_accepts _ _ _ refused]
    exact h

theorem Consistent.addTimer (handler : HandlerId) (now : Instant) (interval : Duration)
    (mode : TimerMode) : (loop.addTimer handler now interval mode).2.Consistent := by
  by_cases haccepts : loop.accepts handler = true
  · refine h.accept haccepts ?_ ?_ (active_addTimer ..) ?_
    · intro entry hmem
      rw [queue_addTimer] at hmem
      exact .inl hmem
    · intro timer hmem
      rw [timers_addTimer_of_accepts _ _ _ _ _ haccepts] at hmem
      rcases TimerSet.mem_agenda_insert.1 hmem with rfl | hold
      · exact .inr rfl
      · exact .inl hold
    · intro other
      simp [stateOf_addTimer, haccepts]
  · have refused : loop.accepts handler = false := Bool.eq_false_iff.2 haccepts
    rw [addTimer_of_not_accepts _ _ _ _ _ refused]
    exact h

theorem Consistent.stopTimer (handler : HandlerId) (id : TimerId) :
    (loop.stopTimer handler id).2.Consistent := by
  refine h.withdraw ?_ ?_ (active_stopTimer ..) (stateOf_stopTimer loop handler · id)
  · intro entry hmem
    rwa [queue_stopTimer] at hmem
  · intro timer hmem
    exact ⟨timer, (agenda_stopTimer_sublist loop handler id).subset hmem, rfl⟩

theorem Consistent.stopAddTimer (handler : HandlerId) (old : TimerId) (now : Instant)
    (interval : Duration) (mode : TimerMode) :
    (loop.stopAddTimer handler old now interval mode).2.2.Consistent :=
  (h.stopTimer handler old).addTimer handler now interval mode

theorem Consistent.filter (visit : Visit σ ε) (state : σ) :
    (loop.filter visit state).2.Consistent := by
  refine h.withdraw ?_ (fun timer hmem => ⟨timer, hmem, rfl⟩) rfl fun _ => rfl
  intro entry hmem
  exact (Filtering.kept_scan_sublist visit state [] [] loop.queue).subset hmem

theorem Consistent.beginRemoval (handler : HandlerId) (remover : Remover) :
    (loop.beginRemoval handler remover).2.Consistent := by
  by_cases hremoved : loop.stateOf handler = .removed
  · rw [beginRemoval_of_removed _ hremoved]
    exact h
  have hstate : ∀ other, (loop.beginRemoval handler remover).2.stateOf other = _ :=
    fun other => stateOf_beginRemoval other remover
  -- No other handler is touched.
  have hother : ∀ {other : HandlerId}, other ≠ handler ->
      (loop.beginRemoval handler remover).2.stateOf other = loop.stateOf other := by
    intro other hne
    rw [hstate, if_neg hne]
  refine ⟨?_, ?_, ?_, ?_⟩
  · intro entry hmem
    rw [beginRemoval_eq _ hremoved] at hmem
    obtain ⟨hold, hne⟩ := List.mem_filter.1 hmem
    rw [hother (by simpa using hne)]
    exact h.queued entry hold
  · intro timer hmem
    rw [beginRemoval_eq _ hremoved] at hmem
    obtain ⟨hold, hne⟩ := List.mem_filter.1 hmem
    rw [hother (by simpa using hne)]
    exact h.armed timer hold
  · intro active hactive
    rw [beginRemoval_eq _ hremoved] at hactive
    obtain ⟨old, hold, rfl⟩ := Option.map_eq_some_iff.1 hactive
    by_cases same : old.handler = handler
    · refine .inr ?_
      rw [if_pos same, hstate, if_pos same, if_pos ⟨hremoved, marks_iff.2 ⟨old, hold, same⟩⟩]
    · rw [if_neg same, hother same]
      exact h.marked old hold
  · intro other hremoving
    rw [marks_beginRemoval]
    by_cases same : other = handler
    · rw [hstate, if_pos same] at hremoving
      split at hremoving
      · next both => exact same ▸ both.2
      · exact nomatch hremoving
    · rw [hother same] at hremoving
      exact h.removing other hremoving

theorem Consistent.consumeSignal : loop.consumeSignal.Consistent :=
  ⟨h.queued, h.armed, h.marked, h.removing⟩

theorem Consistent.beginDelivery {handler : HandlerId}
    (hactive : loop.stateOf handler = .active) (hunmarked : loop.active = none) :
    (loop.beginDelivery handler).Consistent where
  queued := h.queued
  armed := h.armed
  marked active hmark := by
    cases hmark
    exact .inl ⟨hactive, rfl⟩
  removing other hremoving := by
    have hmark := h.removing other hremoving
    rw [marks, hunmarked] at hmark
    exact nomatch hmark

theorem Consistent.endDelivery {handler : HandlerId} (hmark : loop.marks handler = true) :
    (loop.endDelivery handler).2.Consistent := by
  have hkeep : ∀ other, loop.stateOf other = .active ->
      (loop.endDelivery handler).2.stateOf other = .active := by
    intro other hactive
    rw [stateOf_endDelivery]
    split
    · next same => rw [← same, hactive]; rfl
    · exact hactive
  refine ⟨fun entry hmem => hkeep _ (h.queued entry hmem),
    fun timer hmem => hkeep _ (h.armed timer hmem), fun _ hactive => (nomatch hactive), ?_⟩
  intro other hremoving
  rw [stateOf_endDelivery] at hremoving
  split at hremoving
  · cases hs : loop.stateOf handler <;> rw [hs] at hremoving <;> exact nomatch hremoving
  · -- Only the marked handler can be in the middle of its removal.
    next hne => exact absurd (marks_unique (h.removing other hremoving) hmark) hne

theorem Consistent.quit : { loop with quit := true }.Consistent :=
  ⟨h.queued, h.armed, h.marked, h.removing⟩

theorem Consistent.shutDown : loop.shutDown.2.Consistent :=
  h.withdraw (fun _ hmem => absurd hmem List.not_mem_nil)
    (fun _ hmem => absurd hmem List.not_mem_nil) rfl fun _ => rfl

end Sections

section Agenda

variable {loop : Loop ε} (h : loop.timers.Ordered) (handler : HandlerId)
include h

theorem ordered_addTimer (now : Instant) (interval : Duration) (mode : TimerMode) :
    (loop.addTimer handler now interval mode).2.timers.Ordered := by
  by_cases haccepts : loop.accepts handler = true
  · rw [timers_addTimer_of_accepts _ _ _ _ _ haccepts]
    exact TimerSet.ordered_insert h handler now interval mode
  · have refused : loop.accepts handler = false := Bool.eq_false_iff.2 haccepts
    rw [addTimer_of_not_accepts _ _ _ _ _ refused]
    exact h

theorem ordered_stopTimer (id : TimerId) :
    (loop.stopTimer handler id).2.timers.Ordered :=
  h.of_sublist (agenda_stopTimer_sublist loop handler id)

theorem ordered_beginRemoval (remover : Remover) :
    (loop.beginRemoval handler remover).2.timers.Ordered := by
  by_cases hremoved : loop.stateOf handler = .removed
  · rw [beginRemoval_of_removed _ hremoved]
    exact h
  · rw [beginRemoval_eq _ hremoved]
    exact h.of_sublist List.filter_sublist

end Agenda

/-! ## Forward only -/

/-- No handler is at an earlier point of its life afterwards than before. -/
def Advances (before after : Loop ε) : Prop :=
  ∀ handler, (before.stateOf handler).rank <= (after.stateOf handler).rank

theorem Advances.refl (loop : Loop ε) : loop.Advances loop :=
  fun _ => Nat.le_refl _

theorem Advances.trans {first middle last : Loop ε} (h : first.Advances middle)
    (h' : middle.Advances last) : first.Advances last :=
  fun handler => Nat.le_trans (h handler) (h' handler)

theorem Advances.of_stateOf_eq {before after : Loop ε}
    (h : ∀ handler, after.stateOf handler = before.stateOf handler) :
    before.Advances after :=
  fun handler => Nat.le_of_eq (congrArg HandlerState.rank (h handler).symm)

theorem Advances.removed {before after : Loop ε} (h : before.Advances after)
    {handler : HandlerId} (hremoved : before.stateOf handler = .removed) :
    after.stateOf handler = .removed := by
  have hrank := h handler
  rw [hremoved] at hrank
  cases hs : after.stateOf handler with
  | removed => rfl
  | _ => rw [hs] at hrank; exact absurd hrank (by decide)

section Advances

variable (loop : Loop ε) (handler : HandlerId)

/-- Where work is accepted, activation is a step forward or none. -/
theorem rank_le_one_of_accepts (h : loop.accepts handler = true) :
    (loop.stateOf handler).rank <= HandlerState.active.rank :=
  HandlerState.acceptsWork_iff.1 (accepts_iff.1 h).2

theorem advances_send (event : ε) : loop.Advances (loop.send handler event).2 := by
  intro other
  rw [stateOf_send]
  split
  · next both => exact both.2 ▸ rank_le_one_of_accepts loop handler both.1
  · exact Nat.le_refl _

theorem advances_addTimer (now : Instant) (interval : Duration) (mode : TimerMode) :
    loop.Advances (loop.addTimer handler now interval mode).2 := by
  intro other
  rw [stateOf_addTimer]
  split
  · next both => exact both.2 ▸ rank_le_one_of_accepts loop handler both.1
  · exact Nat.le_refl _

theorem advances_stopAddTimer (old : TimerId) (now : Instant) (interval : Duration)
    (mode : TimerMode) :
    loop.Advances (loop.stopAddTimer handler old now interval mode).2.2 :=
  (Advances.of_stateOf_eq (stateOf_stopTimer loop handler · old)).trans
    (advances_addTimer _ handler now interval mode)

theorem advances_beginRemoval (remover : Remover) :
    loop.Advances (loop.beginRemoval handler remover).2 := by
  intro other
  rw [stateOf_beginRemoval]
  split
  · next same =>
      subst same
      split
      · next both =>
          cases hs : loop.stateOf other with
          | removed => exact absurd hs both.1
          | _ => decide
      · cases loop.stateOf other <;> decide
  · exact Nat.le_refl _

theorem advances_finishRemoval : loop.Advances (loop.finishRemoval handler) := by
  intro other
  rw [stateOf_finishRemoval]
  split
  · next same => exact same ▸ HandlerState.rank_le_rank_afterCallback _
  · exact Nat.le_refl _

theorem advances_endDelivery : loop.Advances (loop.endDelivery handler).2 := by
  intro other
  rw [stateOf_endDelivery]
  split
  · next same => exact same ▸ HandlerState.rank_le_rank_afterCallback _
  · exact Nat.le_refl _

theorem advances_requestStop : loop.Advances loop.requestStop := by
  apply Advances.of_stateOf_eq
  intro other
  unfold requestStop
  split <;> rfl

end Advances

end Loop

end Reactor
