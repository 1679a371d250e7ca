import Reactor.Loop.State

/-!
# The next unit of work

The worker of a loop obeys the order to quit first.  Otherwise it fires the
timer that is due, otherwise it takes the oldest event, and otherwise it sleeps
until the next deadline or until it is woken.
-/

namespace Reactor

inductive Work (ε : Type) where
  | quit
  | timer (id : TimerId) (handler : HandlerId)
  | event (entry : QueuedEvent ε)
  | waitUntil (deadline : Instant)
  | wait
  deriving DecidableEq

namespace LoopState

variable {ε : Type}

/-- Choose the next unit of work and take it out of the state. -/
def nextWork (state : LoopState ε) (now : Instant) : Work ε × LoopState ε :=
  if state.quit then
    (.quit, state)
  else
    match state.timers.popExpired now with
    | some ((id, handler), timers) => (.timer id handler, { state with timers })
    | none =>
        match state.queue with
        | entry :: queue => (.event entry, { state with queue })
        | [] =>
            match state.timers.nextDeadline with
            | some deadline => (.waitUntil deadline, state)
            | none => (.wait, state)

end LoopState

end Reactor
