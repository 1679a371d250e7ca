import Reactor.EventLoop.Traffic

/-!
# Giving handlers up

The owner of a handler gives it up when nobody makes a call through it any more,
and from then on there are no calls through it.  The state of the handler is
looked at without taking the lock.  A handler that is in use then and has not been
removed ends the program, unless the thread is unwinding; it then removes the
handler before it does anything else.  The lock is taken for this removal, so
other threads and the worker may come in between.
-/

namespace Reactor

inductive CustodyMove (ε : Type) where
  | traffic (move : Move ε)
  /-- Give a handler up: look at its state. -/
  | drop (caller : Remover) (handler : HandlerId) (unwinding : Bool)
  /-- Remove a handler that was in use when it was given up. -/
  | close (caller : Remover) (now : Instant) (handler : HandlerId)

inductive CustodyAnswer (ε : Type) where
  | traffic (answer : Answer ε)
  | dropped (parting : HandlerSlot.Parting)
  | closed (answer : Answer ε)

/-- The traffic on an event loop whose handlers are given up now and then. -/
structure Custody (ε : Type) where
  traffic : Traffic ε
  /-- The handlers that have been given up. -/
  dropped : List HandlerId
  /-- Who still has to remove a handler that it has given up. -/
  closing : List (Remover × HandlerId)
  /-- The program has ended. -/
  aborted : Bool

namespace Move

variable {ε : Type}

/-- Who makes a move, where it matters who. -/
def actor? : Move ε -> Option Remover
  | .call caller _ _ => some caller
  | .resume thread _ | .join thread => some (.thread thread)
  | .round _ | .wake _ | .endCallback _ | .exit _ => some .worker
  | .bind _ _ | .complete _ | .lose _ => none

/-- The handler that has to be at hand for a move. -/
def subject? : Move ε -> Option HandlerId
  | .call _ _ made => made.handler?
  | .complete handler => some handler
  | _ => none

end Move

/-- Whether a thread waits in a call through a handler. -/
def Traffic.isHeld {ε : Type} (traffic : Traffic ε) (handler : HandlerId) : Bool :=
  (traffic.blocked ++ traffic.notified).any fun wait => wait.2 = handler

namespace Custody

variable {ε : Type}

def start (eventLoop : EventLoop ε) : Custody ε :=
  ⟨.start eventLoop, [], [], false⟩

abbrev loop (state : Custody ε) : Loop ε :=
  state.traffic.loop

/-- Whether the caller has given up a handler that it still has to remove. -/
def isClosing (state : Custody ε) (caller : Remover) : Bool :=
  state.closing.any fun entry => entry.1 = caller

/-- Whether a caller can give a handler up. -/
def canDrop (state : Custody ε) (caller : Remover) (handler : HandlerId) : Bool :=
  state.traffic.canCall caller && handler ∈ state.traffic.bound && handler ∉ state.dropped &&
    !state.isClosing caller && !state.traffic.isHeld handler

def drop (state : Custody ε) (caller : Remover) (handler : HandlerId) :
    HandlerSlot.Parting -> Custody ε
  | .nothing => { state with dropped := handler :: state.dropped }
  | .removeNow =>
      { state with
        dropped := handler :: state.dropped
        closing := (caller, handler) :: state.closing }
  | .abort => { state with aborted := true }

def move? (state : Custody ε) :
    CustodyMove ε -> Option (CustodyAnswer ε × Custody ε)
  | .traffic move =>
      if state.aborted || move.subject?.any (· ∈ state.dropped) ||
          move.actor?.any state.isClosing then
        none
      else
        (state.traffic.move? move).map fun (answer, traffic) =>
          (.traffic answer, { state with traffic })
  | .drop caller handler unwinding =>
      if !state.aborted && state.canDrop caller handler then
        let parting := (state.loop.slots handler).parting unwinding
        some (.dropped parting, state.drop caller handler parting)
      else
        none
  | .close caller now handler =>
      if !state.aborted && (caller, handler) ∈ state.closing then
        (state.traffic.move? (.call caller now (.remove handler))).map
          fun (answer, traffic) =>
            (.closed answer,
              { state with
                traffic
                closing := state.closing.erase (caller, handler) })
      else
        none

/-- Moves with their answers, in order, that lead from one state to another. -/
inductive Reaches :
    Custody ε -> List (CustodyMove ε × CustodyAnswer ε) -> Custody ε -> Prop
  | refl (state : Custody ε) : Reaches state [] state
  | snoc {first last next : Custody ε}
      {past : List (CustodyMove ε × CustodyAnswer ε)} {move : CustodyMove ε}
      {answer : CustodyAnswer ε} :
      Reaches first past last -> last.move? move = some (answer, next) ->
      Reaches first (past ++ [(move, answer)]) next

/-- Moves with their answers that lead from the start of a worker to a state. -/
def Runs (past : List (CustodyMove ε × CustodyAnswer ε)) (state : Custody ε) : Prop :=
  ∃ (name : String) (stackSize : Option Nat) (eventLoop : EventLoop ε),
    (EventLoop.new name stackSize).start = .ok eventLoop ∧
      Reaches (.start eventLoop) past state

def moves? (state : Custody ε) :
    List (CustodyMove ε) ->
    Option (List (CustodyMove ε × CustodyAnswer ε) × Custody ε)
  | [] => some ([], state)
  | move :: rest => do
      let (answer, next) ← state.move? move
      let (steps, last) ← next.moves? rest
      return ((move, answer) :: steps, last)

end Custody

end Reactor
