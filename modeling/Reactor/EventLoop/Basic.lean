import Reactor.Loop.Basic
import Reactor.Thread.Basic

/-!
# Event loops

An event loop is a loop with a worker, the one thread on which its callbacks
run.  Between two moves of the worker the lock is free, or a callback is
running, or the worker sleeps.  When a callback fails, the loop quits in the
same critical section in which the callback ends, and the failure is kept for
the thread that joins the worker.
-/

namespace Reactor

/-- Where the worker of a loop is. -/
inductive WorkerPhase (ε : Type) where
  | choosing
  /-- Asleep, until the deadline if there is one. -/
  | asleep (deadline : Option Instant)
  | calling (handler : HandlerId)
  /-- Releasing the events that will not be delivered. -/
  | leaving (discarded : List (QueuedEvent ε))
  | exited

structure EventLoop (ε : Type) where
  name : String
  loop : Loop ε
  phase : WorkerPhase ε
  /-- The failure in which the worker ended or is about to end. -/
  failure : Option String
  thread : WorkerThread Unit

/-- What a worker says about its end. -/
structure Farewell (ε : Type) where
  discarded : List (QueuedEvent ε)
  disarmed : Nat

inductive Delivery (ε : Type) where
  | timer (id : TimerId)
  | event (event : ε)

/-- What a worker has done in one round. -/
inductive Round (ε : Type) where
  | deliver (handler : HandlerId) (delivery : Delivery ε)
  /-- It found the flag set and looks again. -/
  | again
  | sleep
  | leave (farewell : Farewell ε)

/-- How a call that stops a loop ends for the thread that makes it. -/
inductive StopOutcome where
  | returned
  /-- The failure of the worker goes on in this thread. -/
  | raised (message : String)
  /-- The failure is only noted, since the thread is unwinding already. -/
  | discarded (message : String)
  deriving DecidableEq

def StopOutcome.of (failure : Option String) (unwinding : Bool) : StopOutcome :=
  match failure with
  | none => .returned
  | some message => if unwinding then .discarded message else .raised message

namespace EventLoop

variable {ε : Type}

def defaultName : String :=
  "switchyard-worker"

/-- A loop whose worker has not been started. -/
def new (name : String) (stackSize : Option Nat) : EventLoop ε :=
  { name
    loop := .new
    phase := .choosing
    failure := none
    thread := .new name stackSize }

def start (eventLoop : EventLoop ε) : Except ThreadError (EventLoop ε) :=
  match eventLoop.thread.run (eventLoop.thread.spawn ()) with
  | (.ok (), thread) => .ok { eventLoop with thread }
  | (.error error, _) => .error error

/-- Give up all work and leave. -/
def leave (eventLoop : EventLoop ε) : Farewell ε × EventLoop ε :=
  let ((discarded, disarmed), loop) := eventLoop.loop.shutDown
  (⟨discarded, disarmed⟩, { eventLoop with loop, phase := .leaving discarded })

def rest (eventLoop : EventLoop ε) (deadline : Option Instant) :
    Round ε × EventLoop ε :=
  if eventLoop.loop.signalled then
    (.again, { eventLoop with loop := eventLoop.loop.consumeSignal })
  else
    (.sleep, { eventLoop with phase := .asleep deadline })

def beginCallback (eventLoop : EventLoop ε) (handler : HandlerId) :
    EventLoop ε :=
  { eventLoop with
    loop := eventLoop.loop.beginDelivery handler
    phase := .calling handler }

/-- One round of the worker, from choosing what to do. -/
def round (eventLoop : EventLoop ε) (now : Instant) :
    Round ε × EventLoop ε :=
  let (work, loop) := eventLoop.loop.nextWork now
  let eventLoop := { eventLoop with loop }
  match work with
  | .quit =>
      let (farewell, eventLoop) := eventLoop.leave
      (.leave farewell, eventLoop)
  | .timer id handler =>
      (.deliver handler (.timer id), eventLoop.beginCallback handler)
  | .event entry =>
      (.deliver entry.handler (.event entry.event),
        eventLoop.beginCallback entry.handler)
  | .waitUntil deadline => eventLoop.rest (some deadline)
  | .wait => eventLoop.rest none

/-- Wake a sleeping worker whose flag is set or whose time is up. -/
def wake? (eventLoop : EventLoop ε) (now : Instant) : Option (EventLoop ε) :=
  match eventLoop.phase with
  | .asleep deadline =>
      if eventLoop.loop.signalled || deadline.any (· <= now) then
        some { eventLoop with
          loop := eventLoop.loop.consumeSignal
          phase := .choosing }
      else
        none
  | _ => none

/--
End a callback, possibly in a failure.  The answer has the threads that waited
for its end and, if the worker leaves now, its farewell.
-/
def endCallback (eventLoop : EventLoop ε) (handler : HandlerId)
    (failure : Option String) :
    List ThreadId × Option (Farewell ε) × EventLoop ε :=
  let (waiters, loop) := eventLoop.loop.endDelivery handler
  match failure with
  | none => (waiters, none, { eventLoop with loop, phase := .choosing })
  | some message =>
      let (farewell, eventLoop) :=
        { eventLoop with
          loop := { loop with quit := true }
          failure := some message }.leave
      (waiters, some farewell, eventLoop)

/-- The worker is gone.  A failure while it was leaving replaces an earlier one. -/
def exit (eventLoop : EventLoop ε) (failure : Option String) : EventLoop ε :=
  { eventLoop with
    phase := .exited
    failure := failure.or eventLoop.failure }

def hasExited (eventLoop : EventLoop ε) : Bool :=
  match eventLoop.phase with
  | .exited => true
  | _ => false

/--
Join a worker that has exited.  The answer is absent if it was joined before;
otherwise it is the failure in which the worker ended, if any.
-/
def join (eventLoop : EventLoop ε) :
    Option (Option String) × EventLoop ε :=
  let (handle, thread) := eventLoop.thread.join
  (handle.map fun _ => eventLoop.failure, { eventLoop with thread })

end EventLoop

end Reactor
