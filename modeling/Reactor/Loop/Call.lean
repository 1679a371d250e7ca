import Reactor.Loop.Work
import Reactor.Machine

/-!
# Calls on the state of a loop

A loop state goes through a history of calls, which its worker and other threads make one at a
time while they hold the lock.  Whether a handler may make a call is not decided here.
-/

namespace Reactor

inductive LoopCall (ε : Type) where
  | enqueue (handler : HandlerId) (event : ε)
  | arm (handler : HandlerId) (now : Instant) (interval : Duration) (mode : TimerMode)
  | disarm (id : TimerId)
  | disarmAll (handler : HandlerId)
  | setQuit (quit : Bool)
  /-- The worker looks for work. -/
  | next (now : Instant)

inductive LoopAnswer (ε : Type) where
  | done
  | armed (id : TimerId) (earliest : Bool)
  | disarmed (found : Bool)
  | disarmedAll (count : Nat)
  | work (work : Work ε)
  deriving DecidableEq

namespace LoopState

variable {ε : Type}

def perform (state : LoopState ε) : LoopCall ε -> LoopAnswer ε × LoopState ε
  | .enqueue handler event => (.done, state.enqueue handler event)
  | .arm handler now interval mode =>
      let (id, earliest, after) := state.arm handler now interval mode
      (.armed id earliest, after)
  | .disarm id => (.disarmed (state.disarm id).1, (state.disarm id).2)
  | .disarmAll handler => (.disarmedAll (state.disarmAll handler).1, (state.disarmAll handler).2)
  | .setQuit quit => (.done, { state with quit })
  | .next now => (.work (state.nextWork now).1, (state.nextWork now).2)

/-- A loop state makes every call. -/
def machine : Machine (LoopState ε) (LoopCall ε) (LoopAnswer ε) :=
  fun state call => some (state.perform call)

/-- Calls with their answers lead from one loop state to another. -/
abbrev Reaches (first : LoopState ε) (past : List (LoopCall ε × LoopAnswer ε))
    (last : LoopState ε) : Prop :=
  Machine.Reaches machine first past last

end LoopState

end Reactor
