import Reactor.Handler
import Reactor.Thread.Id
import Reactor.Timer.Set

/-!
# What the lock of a loop protects

A loop holds the queued events in the order in which they were accepted, the
armed timers, a mark for the handler whose callback is running, and the order
to quit.
-/

namespace Reactor

structure QueuedEvent (ε : Type) where
  handler : HandlerId
  event : ε
  deriving DecidableEq

/-- The handler whose callback is running. -/
structure ActiveCallback where
  handler : HandlerId
  /-- Threads that wait for the callback to end, in the order of their calls. -/
  waiters : List ThreadId
  deriving DecidableEq

structure LoopState (ε : Type) where
  queue : List (QueuedEvent ε)
  timers : TimerSet HandlerId
  active : Option ActiveCallback
  quit : Bool

namespace LoopState

variable {ε : Type}

def idle : LoopState ε :=
  ⟨[], .empty, none, false⟩

def enqueue (state : LoopState ε) (handler : HandlerId) (event : ε) :
    LoopState ε :=
  { state with queue := state.queue ++ [⟨handler, event⟩] }

/-- Arm a timer for a handler, as `TimerSet.insert`. -/
def arm (state : LoopState ε) (handler : HandlerId) (now : Instant)
    (interval : Duration) (mode : TimerMode) :
    TimerId × Bool × LoopState ε :=
  let (id, earliest, timers) := state.timers.insert handler now interval mode
  (id, earliest, { state with timers })

/-- Disarm a timer, whoever owns it. -/
def disarm (state : LoopState ε) (id : TimerId) : Bool × LoopState ε :=
  let (found, timers) := state.timers.erase id
  (found, { state with timers })

/-- Disarm all timers of a handler and count them. -/
def disarmAll (state : LoopState ε) (handler : HandlerId) :
    Nat × LoopState ε :=
  let (count, timers) := state.timers.eraseWhere (· = handler)
  (count, { state with timers })

end LoopState

end Reactor
