import Reactor.Proofs.Shutdown.Step
import Reactor.Proofs.Traffic.Quit

/-!
# The traffic of a shutdown

The handle of the worker thread is gone only when the worker has exited: whoever
finds it gone has waited for the one that held the object.  So whatever order
the parts come in of the moves that were taken apart, they make up moves of the
traffic, and what holds of all runs of the traffic holds here too.
-/

namespace Reactor

theorem EventLoop.hasExited_iff {ε : Type} {eventLoop : EventLoop ε} :
    eventLoop.hasExited = true ↔ eventLoop.phase = .exited := by
  unfold EventLoop.hasExited
  cases eventLoop.phase <;> simp

theorem EventLoop.join_of_joinable {ε : Type} {eventLoop : EventLoop ε}
    (joinable : eventLoop.thread.isJoinable = true) :
    eventLoop.join.1 = some eventLoop.failure := by
  obtain ⟨handle, hhandle⟩ := Option.isSome_iff_exists.1 joinable
  simp [EventLoop.join, WorkerThread.join, hhandle]

theorem EventLoop.join_of_spent {ε : Type} {eventLoop : EventLoop ε}
    (spent : eventLoop.thread.isJoinable = false) : eventLoop.join.1 = none := by
  have gone := Option.not_isSome_iff_eq_none.1 (Bool.eq_false_iff.1 spent)
  simp [EventLoop.join, WorkerThread.join, gone]

/-- A worker that has been started has not been joined, and nothing has failed. -/
theorem EventLoop.fresh_of_started {ε : Type} (name : String) (stackSize : Option Nat)
    {eventLoop : EventLoop ε} (started : (EventLoop.new name stackSize).start = .ok eventLoop) :
    eventLoop.thread.isJoinable = true ∧ eventLoop.failure = none := by
  unfold EventLoop.start at started
  generalize (EventLoop.new (ε := ε) name stackSize).thread.spawn () = spawned at started
  cases spawned with
  | error cause => simp [EventLoop.new, WorkerThread.new, WorkerThread.run,
      WorkerThread.isJoinable] at started
  | ok handle =>
      simp only [EventLoop.new, WorkerThread.new, WorkerThread.run, WorkerThread.isJoinable,
        Option.isSome_none, Bool.false_eq_true, if_false, Except.ok.injEq] at started
      subst started
      exact ⟨rfl, rfl⟩

namespace Traffic

variable {ε : Type} {traffic next : Traffic ε} {move : Move ε} {answer : Answer ε}

/-- Other moves than those of a shutdown have nothing to do with the worker thread object. -/
theorem Step.thread_eq (step : Step traffic move answer next) (ordinary : move.isOrdinary = true) :
    next.eventLoop.thread = traffic.eventLoop.thread ∧ next.stopping = traffic.stopping := by
  cases step with
  | stop => exact nomatch ordinary
  | join => exact nomatch ordinary
  | exit => exact nomatch ordinary
  | _ => exact ⟨rfl, rfl⟩

end Traffic

namespace Shutdown

variable {ε : Type} {state next first last : Shutdown ε} {move : ShutdownMove ε}
  {answer : ShutdownAnswer ε} {past later : List (ShutdownMove ε × ShutdownAnswer ε)}

/-! ## The list of calls -/

/-- The threads of the calls that have not ended. -/
def pending (calls : List StopCall) : List ThreadId :=
  (calls.filter (·.outcome.isNone)).map (·.thread)

/-- The end of a call takes its thread off those that are pending, once. -/
theorem perm_pending {calls : List StopCall} {number : Nat} {call : StopCall}
    (hcall : calls[number]? = some call) (unended : call.outcome = none) (outcome : StopOutcome) :
    (pending calls).Perm
      (call.thread :: pending (calls.set number { call with outcome := some outcome })) := by
  induction calls generalizing number with
  | nil => cases hcall
  | cons other rest ih =>
      cases number with
      | zero =>
          cases hcall
          simp [pending, unended]
      | succ number =>
          have ih := ih hcall
          rw [List.set_cons_succ]
          cases hother : other.outcome with
          | some ended => simpa [pending, hother] using ih
          | none =>
              have cons := (ih.cons other.thread).trans (.swap ..)
              simpa [pending, hother] using cons

theorem pending_told (calls : List StopCall) (thread : ThreadId) (unwinding : Bool) :
    pending (calls ++ [⟨thread, unwinding, none⟩]) = pending calls ++ [thread] := by
  simp [pending]

/-- A later call does not change the number of an earlier one. -/
theorem getElem?_told {calls : List StopCall} {number : Nat} {call : StopCall}
    (hcall : calls[number]? = some call) (other : StopCall) :
    (calls ++ [other])[number]? = some call := by
  obtain ⟨hlt, -⟩ := List.getElem?_eq_some_iff.1 hcall
  rw [List.getElem?_append_left hlt, hcall]

theorem told_cases {calls : List StopCall} {number : Nat} {call other : StopCall}
    (hcall : (calls ++ [other])[number]? = some call) :
    calls[number]? = some call ∨ call = other := by
  rcases Nat.lt_or_ge number calls.length with hlt | hge
  · exact .inl (by rwa [List.getElem?_append_left hlt] at hcall)
  · rw [List.getElem?_append_right hge] at hcall
    exact .inr (List.mem_singleton.1 (List.mem_of_getElem? hcall))

theorem set_cases {calls : List StopCall} {number other : Nat} {call ended : StopCall}
    (hcall : (calls.set number ended)[other]? = some call) :
    other = number ∧ call = ended ∨ other ≠ number ∧ calls[other]? = some call := by
  by_cases same : other = number
  · subst same
    rw [List.getElem?_set_self'] at hcall
    obtain ⟨_, -, rfl⟩ := Option.map_eq_some_iff.1 hcall
    exact .inl ⟨rfl, rfl⟩
  · rw [List.getElem?_set_ne (Ne.symm same)] at hcall
    exact .inr ⟨same, hcall⟩

theorem getElem?_ended {calls : List StopCall} {number : Nat} {call : StopCall}
    (hcall : calls[number]? = some call) (outcome : StopOutcome) :
    (calls.set number { call with outcome := some outcome })[number]? =
      some { call with outcome := some outcome } := by
  rw [List.getElem?_set_self', hcall]
  rfl

/-- The end of a call changes nothing of what does not depend on it. -/
theorem map_ended {α : Type} {calls : List StopCall} {number : Nat} {call : StopCall}
    (f : StopCall -> α) (hcall : calls[number]? = some call) {outcome : Option StopOutcome}
    (same : f { call with outcome } = f call) :
    (calls.set number { call with outcome }).map f = calls.map f := by
  obtain ⟨hlt, rfl⟩ := List.getElem?_eq_some_iff.1 hcall
  have hlt' : number < (calls.map f).length := by rwa [List.length_map]
  rw [List.map_set, same, ← List.getElem_map f (h := hlt'), List.set_getElem_self]

/-! ## The invariant -/

structure Orderly (state : Shutdown ε) : Prop where
  /-- Nobody has taken the handle of a worker that goes on. -/
  joined : state.eventLoop.thread.isJoinable = false -> state.eventLoop.phase = .exited
  held : ∀ number, state.holder = some number -> state.eventLoop.thread.isJoinable = true ∧
    ∃ call, state.calls[number]? = some call ∧ call.outcome = none
  stopping : state.traffic.stopping.Perm (pending state.calls)

theorem orderly_start {name : String} {stackSize : Option Nat} {eventLoop : EventLoop ε}
    (started : (EventLoop.new name stackSize).start = .ok eventLoop) :
    (start eventLoop).Orderly where
  joined spent := nomatch spent.symm.trans (EventLoop.fresh_of_started name stackSize started).1
  held _ holds := nomatch holds
  stopping := .refl _

namespace Orderly

variable (h : state.Orderly)
include h

theorem mem_stopping {number : Nat} {call : StopCall} (hcall : state.calls[number]? = some call)
    (unended : call.outcome = none) : call.thread ∈ state.traffic.stopping := by
  rw [h.stopping.mem_iff]
  refine List.mem_map.2 ⟨call, List.mem_filter.2 ⟨List.mem_of_getElem? hcall, ?_⟩, rfl⟩
  rw [unended]
  rfl

theorem finish {number : Nat} {call : StopCall} (hcall : state.calls[number]? = some call)
    (unended : call.outcome = none) (gone : state.eventLoop.phase = .exited) :
    (state.finish number call).2.Orderly where
  joined _ := gone
  held other holds := nomatch holds
  stopping := by
    let outcome := StopOutcome.of state.eventLoop.join.1.join call.unwinding
    have apart := (h.stopping.trans (perm_pending hcall unended outcome)).erase call.thread
    rwa [List.erase_cons_head] at apart

/-- The end of a call is the move of the traffic in which its thread joins the worker. -/
theorem join {number : Nat} {call : StopCall} (hcall : state.calls[number]? = some call)
    (unended : call.outcome = none) (gone : state.eventLoop.phase = .exited) :
    state.traffic.move? (.join call.thread) =
      some (.joined state.eventLoop.join.1, (state.finish number call).2.traffic) := by
  have both : call.thread ∈ state.traffic.stopping ∧ state.traffic.eventLoop.hasExited = true :=
    ⟨h.mem_stopping hcall unended, EventLoop.hasExited_iff.2 gone⟩
  simp only [Traffic.move?]
  rw [if_pos both]
  rfl

theorem unended_of_held {number : Nat} {call : StopCall} (holds : state.holder = some number)
    (hcall : state.calls[number]? = some call) : call.outcome = none := by
  obtain ⟨-, other, hother, unended⟩ := h.held number holds
  rw [hcall] at hother
  cases hother
  exact unended

end Orderly

/-! ## Steps -/

theorem Orderly.step (h : state.Orderly) (step : Step state move answer next) : next.Orderly := by
  cases step with
  | traffic ordinary made =>
      have step := Traffic.step_of_move? made
      obtain ⟨thread, stopping⟩ := step.thread_eq ordinary
      refine ⟨fun spent => (step.exited (h.joined (thread ▸ spent))).1, fun number holds => ?_, ?_⟩
      · obtain ⟨joinable, unended⟩ := h.held number holds
        exact ⟨thread ▸ joinable, unended⟩
      · exact stopping ▸ h.stopping
  | @stop thread unwinding last kept alone =>
      refine ⟨h.joined, fun number holds => ?_, ?_⟩
      · obtain ⟨joinable, call, hcall, unended⟩ := h.held number holds
        exact ⟨joinable, call, getElem?_told hcall _, unended⟩
      · rw [pending_told]
        exact h.stopping.append_right [thread]
  | hold free calls unended joinable =>
      refine ⟨h.joined, fun number holds => ?_, h.stopping⟩
      cases holds
      exact ⟨joinable, _, calls, unended⟩
  | pass free calls unended spent => exact h.finish calls unended (h.joined spent)
  | collect holds calls gone =>
      exact h.finish calls (h.unended_of_held holds calls) (EventLoop.hasExited_iff.1 gone)
  | release => exact ⟨h.joined, h.held, h.stopping⟩
  | exit => exact ⟨fun _ => rfl, h.held, h.stopping⟩

/-- What a step does to the traffic is what it is as a move of the traffic. -/
theorem Step.simulates (step : Step state move answer next) (h : state.Orderly) :
    Traffic.Reaches state.traffic (trafficOf [(move, answer)]) next.traffic := by
  cases step with
  | traffic ordinary made => exact .snoc (.refl _) made
  | stop kept alone => exact .snoc (.refl _) rfl
  | hold => exact .refl _
  | pass free calls unended spent => exact .snoc (.refl _) (h.join calls unended (h.joined spent))
  | collect holds calls gone =>
      exact .snoc (.refl _)
        (h.join calls (h.unended_of_held holds calls) (EventLoop.hasExited_iff.1 gone))
  | release => exact .refl _
  | exit leaves all =>
      refine .snoc (.refl _) ?_
      simp [Traffic.move?, leaves]

/-! ## Runs -/

theorem Runs.orderly (runs : Runs past state) : state.Orderly :=
  runs.induction (P := fun _ state => state.Orderly) orderly_start fun _ step h => h.step step

theorem Reaches.simulates (reaches : Reaches first later last) (h : first.Orderly) :
    Traffic.Reaches first.traffic (trafficOf later) last.traffic := by
  have both : last.Orderly ∧ Traffic.Reaches first.traffic (trafficOf later) last.traffic := by
    induction reaches with
    | refl => exact ⟨h, .refl _⟩
    | snoc _ made ih =>
        have step := step_of_move? made
        obtain ⟨orderly, before⟩ := ih
        refine ⟨orderly.step step, ?_⟩
        rw [trafficOf_append]
        exact before.trans (step.simulates orderly)
  exact both.2

/-- The traffic of a run is a run of the traffic. -/
theorem Runs.traffic (runs : Runs past state) : Traffic.Runs (trafficOf past) state.traffic := by
  obtain ⟨name, stackSize, eventLoop, started, reaches⟩ := runs
  exact ⟨name, stackSize, eventLoop, started, reaches.simulates (orderly_start started)⟩

end Shutdown

end Reactor
