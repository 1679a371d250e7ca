import Reactor.Loop.State

/-!
# Filtering the queue

A filter looks at every queued event once, in order, and says of each whether
it is to go.  It may carry a state from one event to the next, and it may fail.
The queue is taken out for the filtering, so a failure loses all of it.
-/

namespace Reactor

/-- Looks at an event; no answer means failure. -/
abbrev Visit (σ ε : Type) :=
  σ -> QueuedEvent ε -> Option Bool × σ

namespace Visit

variable {σ ε : Type}

/-- Look at events of one handler only, and keep all others. -/
def onlyFor (handler : HandlerId) (visit : Visit σ ε) : Visit σ ε :=
  fun state entry =>
    if entry.handler = handler then visit state entry else (some false, state)

end Visit

inductive Filtering (σ ε : Type) where
  | done (state : σ) (taken kept : List (QueuedEvent ε))
  /-- The lost events are in the order in which they are destroyed. -/
  | failed (state : σ) (lost : List (QueuedEvent ε))

namespace Filtering

variable {σ ε : Type}

def state : Filtering σ ε -> σ
  | done state _ _ => state
  | failed state _ => state

def gone : Filtering σ ε -> List (QueuedEvent ε)
  | done _ taken _ => taken
  | failed _ lost => lost

/-- Events that go back into the queue. -/
def kept : Filtering σ ε -> List (QueuedEvent ε)
  | done _ _ kept => kept
  | failed _ _ => []

/--
Look at the events of `queue` in order, after `taken` and `kept`.  When `visit`
fails, the event it looked at goes first, then those it has not seen, then
those that were to stay, then those that were to go.
-/
def scan (visit : Visit σ ε) (state : σ) (taken kept : List (QueuedEvent ε)) :
    (queue : List (QueuedEvent ε)) -> Filtering σ ε
  | [] => .done state taken kept
  | entry :: queue =>
      match visit state entry with
      | (some true, state) => scan visit state (taken ++ [entry]) kept queue
      | (some false, state) => scan visit state taken (kept ++ [entry]) queue
      | (none, state) => .failed state (entry :: queue ++ kept ++ taken)

end Filtering

namespace LoopState

variable {σ ε : Type}

def filter (loop : LoopState ε) (visit : Visit σ ε) (state : σ) :
    Filtering σ ε × LoopState ε :=
  let filtering := Filtering.scan visit state [] [] loop.queue
  (filtering, { loop with queue := filtering.kept })

def purge (loop : LoopState ε) (handler : HandlerId) :
    List (QueuedEvent ε) × LoopState ε :=
  (loop.queue.filter fun entry => entry.handler = handler,
    { loop with queue := loop.queue.filter fun entry => entry.handler ≠ handler })

end LoopState

end Reactor
