import Reactor.EventLoop.Handover
import Reactor.Proofs.Traffic.Building

/-!
# Delivery to handlers that are being built

A handler can have work before its object is complete, since the object is built
around a core that is in use already.  The worker hands over all that it takes,
before it does anything else.  The handler is called if its object is complete and
its destruction has not begun.  If the object is still being built the worker
destroys what it has taken, as if the object were going away, although the handler
has not been removed and stays in use.
-/

namespace Reactor

namespace Handover

variable {ε : Type} {state next last : Handover ε} {move : HandoverMove ε}
  {answer : HandoverAnswer ε} {past later : List (HandoverMove ε × HandoverAnswer ε)}
  {handler : HandlerId} {delivery : Delivery ε}

/-! ## Steps -/

inductive Step (state : Handover ε) : HandoverMove ε -> HandoverAnswer ε -> Handover ε -> Prop
  | traffic {move : Move ε} {answer : Answer ε} {after : Traffic ε}
      (able : state.taken = none ∨ move.actor? ≠ some .worker)
      (made : state.traffic.move? move = some (answer, after)) :
      Step state (.traffic move) (.traffic answer) ⟨after, answer.delivery?.or state.taken⟩
  | call {handler : HandlerId} {delivery : Delivery ε}
      (taken : state.taken = some (handler, delivery))
      (callable : (state.traffic.loop.slots handler).callable = true) :
      Step state .handOver (.called handler delivery) { state with taken := none }
  | destroy {handler : HandlerId} {delivery : Delivery ε}
      (taken : state.taken = some (handler, delivery))
      (uncallable : (state.traffic.loop.slots handler).callable = false) :
      Step state .handOver (.destroyed handler delivery) { state with taken := none }

/-- Every possible move goes by one of the rules. -/
theorem step_of_move? (h : state.move? move = some (answer, next)) :
    Step state move answer next := by
  cases move with
  | traffic move =>
      simp only [move?] at h
      split at h
      · cases h
      · next allowed =>
          obtain ⟨⟨answer, after⟩, made, hnext⟩ := Option.map_eq_some_iff.1 h
          cases hnext
          refine .traffic ?_ made
          cases htaken : state.taken with
          | none => exact .inl rfl
          | some taken => exact .inr fun worker => allowed ⟨by simp [htaken], worker⟩
  | handOver =>
      simp only [move?] at h
      obtain ⟨⟨handler, delivery⟩, taken, hnext⟩ := Option.map_eq_some_iff.1 h
      split at hnext
      · next callable =>
          cases hnext
          exact .call taken callable
      · next uncallable =>
          cases hnext
          exact .destroy taken (Bool.eq_false_iff.2 uncallable)

/-! ## Runs -/

/-- What a step is as a move of the traffic. -/
def project : HandoverMove ε × HandoverAnswer ε -> Option (Move ε × Answer ε)
  | (.traffic move, .traffic answer) => some (move, answer)
  | _ => none

/-- The history of the traffic. -/
def trafficOf (past : List (HandoverMove ε × HandoverAnswer ε)) : List (Move ε × Answer ε) :=
  past.filterMap project

theorem Step.simulates (step : Step state move answer next) :
    Traffic.Reaches state.traffic (trafficOf [(move, answer)]) next.traffic := by
  cases step with
  | traffic able made => exact .snoc (.refl _) made
  | call => exact .refl _
  | destroy => exact .refl _

/-- The traffic of a run is a run of the traffic. -/
theorem Runs.traffic (runs : Runs past state) : Traffic.Runs (trafficOf past) state.traffic := by
  obtain ⟨name, stackSize, eventLoop, started, reaches⟩ := runs
  refine ⟨name, stackSize, eventLoop, started, ?_⟩
  induction reaches with
  | refl => exact .refl _
  | snoc _ made ih =>
      rw [trafficOf, List.filterMap_append]
      exact ih.trans (step_of_move? made).simulates

/-- Whether the worker makes a move. -/
def byWorker : HandoverMove ε -> Bool
  | .traffic move => move.actor? = some .worker
  | .handOver => true

/-- The last thing that the worker has done in the run was to take a delivery. -/
def TakenLast (past : List (HandoverMove ε × HandoverAnswer ε)) (handler : HandlerId)
    (delivery : Delivery ε) : Prop :=
  ∃ front now back,
    past = front ++ (.traffic (.round now), .traffic (.round (.deliver handler delivery))) :: back ∧
      ∀ step ∈ back, byWorker step.1 = false

/-- Only a round of the worker takes a delivery. -/
theorem round_of_delivery? {traffic after : Traffic ε} {move : Move ε} {answer : Answer ε}
    (step : Traffic.Step traffic move answer after)
    (taken : answer.delivery? = some (handler, delivery)) :
    ∃ now, move = .round now ∧ answer = .round (.deliver handler delivery) := by
  cases step with
  | fire | deliver =>
      cases taken
      exact ⟨_, rfl, rfl⟩
  | _ => cases taken

theorem Reaches.takenLast {eventLoop : EventLoop ε} (reaches : Reaches (.start eventLoop) past state)
    (taken : state.taken = some (handler, delivery)) : TakenLast past handler delivery := by
  induction reaches with
  | refl => cases taken
  | snoc _ made ih =>
      cases step_of_move? made with
      | @traffic move answer after able made' =>
          simp only at taken
          cases hnew : answer.delivery? with
          | some fresh =>
              rw [hnew, Option.some_or] at taken
              rw [taken] at hnew
              obtain ⟨now, rfl, rfl⟩ := round_of_delivery? (Traffic.step_of_move? made') hnew
              exact ⟨_, now, [], rfl, fun _ hmem => absurd hmem List.not_mem_nil⟩
          | none =>
              rw [hnew, Option.none_or] at taken
              -- What was taken before is still there, so the move was not one of the worker.
              obtain ⟨front, now, back, rfl, quiet⟩ := ih taken
              refine ⟨front, now, back ++ [(.traffic move, .traffic answer)], by simp, ?_⟩
              intro step hmem
              rcases List.mem_append.1 hmem with hmem | hmem
              · exact quiet step hmem
              · rw [List.mem_singleton.1 hmem]
                rcases able with free | foreign
                · exact nomatch free.symm.trans taken
                · exact decide_eq_false foreign
      | call => cases taken
      | destroy => cases taken

/-- What becomes of what the worker takes. -/
structure HandedOver (past : List (HandoverMove ε × HandoverAnswer ε)) (state : Handover ε) :
    Prop where
  /-- The worker hands over what it has taken before it does anything else. -/
  next : ∀ handler delivery, state.taken = some (handler, delivery) ->
    (∃ answer next, state.move? .handOver = some (answer, next) ∧ next.taken = none) ∧
      ∀ move, move.actor? = some .worker -> state.move? (.traffic move) = none
  /-- It is handed over to the callback, if the object of the handler has been completed and its
  destruction has not begun. -/
  outcome : ∀ front answer back, past = front ++ (.handOver, answer) :: back ->
    ∃ handler delivery, TakenLast front handler delivery ∧
      (Traffic.IsCreated (trafficOf front) handler ->
        (Traffic.IsComplete (trafficOf front) handler -> answer = .called handler delivery) ∧
        (¬ Traffic.IsComplete (trafficOf front) handler -> answer = .destroyed handler delivery))

theorem move?_handOver (taken : state.taken = some (handler, delivery)) :
    (∃ answer next, state.move? .handOver = some (answer, next) ∧ next.taken = none) ∧
      ∀ move, move.actor? = some .worker -> state.move? (.traffic move) = none := by
  constructor
  · simp only [move?, taken, Option.map_some]
    split
    · exact ⟨_, _, rfl, rfl⟩
    · exact ⟨_, _, rfl, rfl⟩
  · intro move worker
    exact if_pos ⟨by rw [taken]; rfl, worker⟩

theorem complete_handlers_are_called (runs : Runs past state) : HandedOver past state := by
  refine ⟨fun handler delivery taken => move?_handOver taken, ?_⟩
  rintro front answer back rfl
  obtain ⟨name, stackSize, eventLoop, started, reaches⟩ := runs
  obtain ⟨before, after, hfront, made, -⟩ := reaches.cut
  have runs : Runs front before := ⟨name, stackSize, eventLoop, started, hfront⟩
  cases step_of_move? made with
  | @call handler delivery taken callable =>
      refine ⟨handler, delivery, Reaches.takenLast hfront taken, fun created => ⟨fun _ => rfl, ?_⟩⟩
      intro incomplete
      exact absurd ((runs.traffic.callable_iff created).1 callable) incomplete
  | @destroy handler delivery taken uncallable =>
      refine ⟨handler, delivery, Reaches.takenLast hfront taken, fun created => ⟨?_, fun _ => rfl⟩⟩
      intro complete
      have callable := (runs.traffic.callable_iff created).2 complete
      exact nomatch uncallable.symm.trans callable

/-- The object of a handler is completed after the worker has taken an event for it and before
it hands the event over, so the handler is called. -/
theorem handler_is_completed_in_time :
    ∃ (past : List (HandoverMove Nat × HandoverAnswer Nat)) (state : Handover Nat),
      Runs past state ∧
        past.map Prod.fst =
          [.traffic (.bind ⟨0⟩ .building), .traffic (.call (.thread ⟨1⟩) .first (.send ⟨0⟩ 7)),
            .traffic (.round .first), .traffic (.complete ⟨0⟩), .handOver] ∧
        past.getLast? = some (.handOver, .called ⟨0⟩ (.event 7)) ∧ HandedOver past state := by
  have runs : Runs _ _ := ⟨"worker", none, _, rfl, Machine.reaches_of_run?
    [.traffic (.bind ⟨0⟩ .building), .traffic (.call (.thread ⟨1⟩) .first (.send ⟨0⟩ (7 : Nat))),
      .traffic (.round .first), .traffic (.complete ⟨0⟩), .handOver] rfl⟩
  exact ⟨_, _, runs, rfl, rfl, complete_handlers_are_called runs⟩

/-- An event that is posted while the object of its handler is being built is destroyed, though
the loop goes on, nobody has removed the handler, and no destruction has begun.  The object is
completed afterwards. -/
theorem event_is_destroyed_while_handler_is_built :
    ∃ (past : List (HandoverMove Nat × HandoverAnswer Nat)) (before after : Handover Nat),
      Runs past before ∧
        past.map Prod.fst =
          [.traffic (.bind ⟨0⟩ .building), .traffic (.call (.thread ⟨1⟩) .first (.send ⟨0⟩ 7)),
            .traffic (.round .first)] ∧
        before.traffic.loop.quit = false ∧ before.traffic.loop.stateOf ⟨0⟩ = .active ∧
        before.taken = some (⟨0⟩, .event 7) ∧
        before.move? .handOver = some (.destroyed ⟨0⟩ (.event 7), after) ∧
        (after.move? (.traffic (.complete ⟨0⟩))).isSome = true := by
  have runs : Runs _ _ := ⟨"worker", none, _, rfl, Machine.reaches_of_run?
    [.traffic (.bind ⟨0⟩ .building), .traffic (.call (.thread ⟨1⟩) .first (.send ⟨0⟩ (7 : Nat))),
      .traffic (.round .first)] rfl⟩
  exact ⟨_, _, _, runs, rfl, rfl, rfl, rfl, rfl, rfl⟩

end Handover

end Reactor
