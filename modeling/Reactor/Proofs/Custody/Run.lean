import Reactor.EventLoop.Custody
import Reactor.Proofs.Traffic.Run

/-!
# Runs in which handlers are given up

`Step` has one rule for everything that a move can do.  A run has in it a run of
the traffic, with the removals that come from giving handlers up among its moves.
-/

namespace Reactor

namespace Custody

variable {ε : Type}

/-! ## Steps -/

inductive Step (state : Custody ε) : CustodyMove ε -> CustodyAnswer ε -> Custody ε -> Prop
  | traffic {move : Move ε} {answer : Answer ε} {after : Traffic ε}
      (running : state.aborted = false)
      (kept : ∀ handler, move.subject? = some handler -> handler ∉ state.dropped)
      (free : ∀ caller, move.actor? = some caller -> ∀ entry ∈ state.closing, entry.1 ≠ caller)
      (made : state.traffic.move? move = some (answer, after)) :
      Step state (.traffic move) (.traffic answer) { state with traffic := after }
  | drop {caller : Remover} {handler : HandlerId} {unwinding : Bool}
      (running : state.aborted = false) (able : state.traffic.canCall caller = true)
      (known : handler ∈ state.traffic.bound) (kept : handler ∉ state.dropped)
      (free : ∀ entry ∈ state.closing, entry.1 ≠ caller)
      (unheld : state.traffic.isHeld handler = false) :
      Step state (.drop caller handler unwinding)
        (.dropped ((state.loop.slots handler).parting unwinding))
        (state.drop caller handler ((state.loop.slots handler).parting unwinding))
  | close {caller : Remover} {now : Instant} {handler : HandlerId} {answer : Answer ε}
      {after : Traffic ε} (running : state.aborted = false)
      (owed : (caller, handler) ∈ state.closing)
      (made : state.traffic.move? (.call caller now (.remove handler)) = some (answer, after)) :
      Step state (.close caller now handler) (.closed answer)
        { state with traffic := after, closing := state.closing.erase (caller, handler) }

variable {state next first middle last : Custody ε} {move : CustodyMove ε}
  {answer : CustodyAnswer ε} {past later : List (CustodyMove ε × CustodyAnswer ε)}

theorem isClosing_eq_false_iff :
    state.isClosing caller = false ↔ ∀ entry ∈ state.closing, entry.1 ≠ caller := by
  simp [isClosing]

/-- Every possible move goes by one of the rules. -/
theorem step_of_move? (h : state.move? move = some (answer, next)) :
    Step state move answer next := by
  cases move with
  | traffic move =>
      simp only [move?] at h
      split at h
      · cases h
      · next allowed =>
          obtain ⟨⟨answer, after⟩, made, hnext⟩ := Option.map_eq_some_iff.1 h
          cases hnext
          simp only [Bool.or_eq_true, not_or, Bool.not_eq_true] at allowed
          obtain ⟨⟨running, kept⟩, free⟩ := allowed
          refine .traffic running (fun handler hsubject => ?_) (fun caller hactor => ?_) made
          · simpa [hsubject] using kept
          · rw [hactor] at free
            exact isClosing_eq_false_iff.1 free
  | drop caller handler unwinding =>
      simp only [move?] at h
      split at h
      · next allowed =>
          cases h
          simp only [canDrop, Bool.and_eq_true, Bool.not_eq_true', decide_eq_true_eq,
            isClosing_eq_false_iff] at allowed
          obtain ⟨running, ⟨⟨⟨able, known⟩, kept⟩, free⟩, unheld⟩ := allowed
          exact .drop running able known kept free unheld
      · cases h
  | close caller now handler =>
      simp only [move?] at h
      split at h
      · next allowed =>
          obtain ⟨⟨answer, after⟩, made, hnext⟩ := Option.map_eq_some_iff.1 h
          cases hnext
          simp only [Bool.and_eq_true, Bool.not_eq_true', decide_eq_true_eq] at allowed
          exact .close allowed.1 allowed.2 made
      · cases h

/-! ## Runs -/

theorem Reaches.trans (reaches : Reaches first past middle) (more : Reaches middle later last) :
    Reaches first (past ++ later) last := by
  induction more with
  | refl =>
      rw [List.append_nil]
      exact reaches
  | snoc more made ih =>
      rw [← List.append_assoc]
      exact .snoc ih made

theorem Runs.through (runs : Runs past state) (made : state.move? move = some (answer, next))
    (reaches : Reaches next later last) : Runs (past ++ (move, answer) :: later) last := by
  obtain ⟨name, stackSize, eventLoop, started, before⟩ := runs
  refine ⟨name, stackSize, eventLoop, started, ?_⟩
  rw [List.append_cons]
  exact (Reaches.snoc before made).trans reaches

theorem reaches_of_moves? (moves : List (CustodyMove ε))
    (h : first.moves? moves = some (past, last)) : Reaches first past last := by
  induction moves generalizing first past with
  | nil =>
      cases h
      exact .refl _
  | cons move rest ih =>
      simp only [moves?, Option.bind_eq_bind, Option.bind_eq_some_iff] at h
      obtain ⟨⟨answer, next⟩, made, ⟨steps, last'⟩, hrest, hlast⟩ := h
      cases hlast
      exact (Reaches.snoc (.refl _) made).trans (ih hrest)

theorem runs_of_moves? (name : String) (stackSize : Option Nat) (moves : List (CustodyMove ε))
    {eventLoop : EventLoop ε} (started : (EventLoop.new name stackSize).start = .ok eventLoop)
    (h : (Custody.start eventLoop).moves? moves = some (past, last)) : Runs past last :=
  ⟨name, stackSize, eventLoop, started, reaches_of_moves? moves h⟩

/-! ## Histories -/

/-- What a step is as a move of the traffic.  Who gives a handler up makes no such move. -/
def project : CustodyMove ε × CustodyAnswer ε -> Option (Move ε × Answer ε)
  | (.traffic move, .traffic answer) => some (move, answer)
  | (.close caller now handler, .closed answer) =>
      some (.call caller now (.remove handler), answer)
  | _ => none

/-- The history of the traffic. -/
def trafficOf (past : List (CustodyMove ε × CustodyAnswer ε)) : List (Move ε × Answer ε) :=
  past.filterMap project

theorem Step.simulates (step : Step state move answer next) :
    Traffic.Reaches state.traffic (trafficOf [(move, answer)]) next.traffic := by
  cases step with
  | traffic running kept free made => exact .snoc (.refl _) made
  | @drop caller handler unwinding =>
      cases (state.loop.slots handler).parting unwinding <;> exact .refl _
  | close running owed made => exact .snoc (.refl _) made

theorem Reaches.simulates (reaches : Reaches first later last) :
    Traffic.Reaches first.traffic (trafficOf later) last.traffic := by
  induction reaches with
  | refl => exact .refl _
  | snoc reaches made ih =>
      rw [trafficOf, List.filterMap_append]
      exact ih.trans (step_of_move? made).simulates

/-- The traffic of a run is a run of the traffic. -/
theorem Runs.traffic (runs : Runs past state) : Traffic.Runs (trafficOf past) state.traffic := by
  obtain ⟨name, stackSize, eventLoop, started, reaches⟩ := runs
  exact ⟨name, stackSize, eventLoop, started, reaches.simulates⟩

end Custody

end Reactor
