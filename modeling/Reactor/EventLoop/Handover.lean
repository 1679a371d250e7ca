import Reactor.EventLoop.Custody
import Reactor.Machine

/-!
# Handing over

The worker takes an event or an expired timer out of the loop in one critical
section, and hands it over to the handler in the next thing it does, while the
lock is free.  The handler is called if its object can be called at that moment.
Otherwise what was taken is destroyed, and the delivery ends without a call.
Other threads may come in between, among them one that builds the object or
begins to destroy it.
-/

namespace Reactor

inductive HandoverMove (ε : Type) where
  | traffic (move : Move ε)
  /-- The worker hands over what it has taken. -/
  | handOver

inductive HandoverAnswer (ε : Type) where
  | traffic (answer : Answer ε)
  | called (handler : HandlerId) (delivery : Delivery ε)
  /-- There was no object to call. -/
  | destroyed (handler : HandlerId) (delivery : Delivery ε)

/-- The traffic on an event loop, and what its worker has taken and not handed over yet. -/
structure Handover (ε : Type) where
  traffic : Traffic ε
  taken : Option (HandlerId × Delivery ε)

/-- What the worker has taken, by the answer to a move. -/
def Answer.delivery? {ε : Type} : Answer ε -> Option (HandlerId × Delivery ε)
  | .round (.deliver handler delivery) => some (handler, delivery)
  | _ => none

namespace Handover

variable {ε : Type}

def start (eventLoop : EventLoop ε) : Handover ε :=
  ⟨.start eventLoop, none⟩

def move? : Machine (Handover ε) (HandoverMove ε) (HandoverAnswer ε)
  | state, .traffic move =>
      if state.taken.isSome ∧ move.actor? = some .worker then
        none
      else
        (state.traffic.move? move).map fun (answer, traffic) =>
          (.traffic answer, ⟨traffic, answer.delivery?.or state.taken⟩)
  | state, .handOver =>
      state.taken.map fun (handler, delivery) =>
        if (state.traffic.loop.slots handler).callable then
          (.called handler delivery, { state with taken := none })
        else
          (.destroyed handler delivery, { state with taken := none })

abbrev Reaches : Handover ε -> List (HandoverMove ε × HandoverAnswer ε) -> Handover ε -> Prop :=
  Machine.Reaches move?

/-- Moves with their answers that lead from the start of a worker to a state. -/
def Runs (past : List (HandoverMove ε × HandoverAnswer ε)) (state : Handover ε) : Prop :=
  ∃ (name : String) (stackSize : Option Nat) (eventLoop : EventLoop ε),
    (EventLoop.new name stackSize).start = .ok eventLoop ∧
      Reaches (.start eventLoop) past state

end Handover

end Reactor
