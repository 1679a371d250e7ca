import Reactor.Loop.Filter
import Reactor.Loop.Work

/-!
# Loops

A loop is what its lock protects, the slots of its handlers and the flag that
wakes its worker.  The operations below are the critical sections of the loop:
each runs from beginning to end while the lock is held.  The flag is set where
a sleeping worker would have something to do, or would have to sleep for a
shorter time: when an event comes into an empty queue, when a timer is armed
that is due before all others, and when the loop is told to quit.
-/

namespace Reactor

structure Loop (ε : Type) extends LoopState ε where
  slots : HandlerId -> HandlerSlot
  /-- The worker is to wake up, or not to fall asleep. -/
  signalled : Bool

inductive Remover where
  /-- The worker of the loop, which cannot wait for itself. -/
  | worker
  | thread (id : ThreadId)
  deriving DecidableEq

/-- What the removal of a handler has taken from its loop. -/
structure Removal (ε : Type) where
  purged : List (QueuedEvent ε)
  /-- How many timers have been disarmed. -/
  disarmed : Nat
  /-- The remover has to wait for the running callback to end. -/
  waiting : Bool

namespace Loop

variable {ε : Type}

def new : Loop ε :=
  { LoopState.idle with
    slots := fun _ => .fresh .gone
    signalled := false }

def updateSlot (loop : Loop ε) (handler : HandlerId)
    (f : HandlerSlot -> HandlerSlot) : Loop ε :=
  let slot := f (loop.slots handler)
  { loop with
    slots := fun other => if other = handler then slot else loop.slots other }

def bind (loop : Loop ε) (handler : HandlerId) (target : Target) : Loop ε :=
  loop.updateSlot handler fun _ => .fresh target

/-- The handler object is complete and can be called. -/
def complete (loop : Loop ε) (handler : HandlerId) : Loop ε :=
  loop.updateSlot handler fun slot => { slot with target := .alive }

/-- The destruction of the handler object begins. -/
def lose (loop : Loop ε) (handler : HandlerId) : Loop ε :=
  loop.updateSlot handler .lose

def accepts (loop : Loop ε) (handler : HandlerId) : Bool :=
  !loop.quit && (loop.slots handler).acceptsWork

/-- Post an event.  The answer says whether it was accepted. -/
def send (loop : Loop ε) (handler : HandlerId) (event : ε) : Bool × Loop ε :=
  if loop.accepts handler then
    let active := loop.updateSlot handler .activate
    (true,
      { active with
        queue := loop.queue ++ [⟨handler, event⟩]
        signalled := loop.signalled || loop.queue.isEmpty })
  else
    (false, loop)

/-- Arm a timer.  The answer is its identifier, if it was accepted. -/
def addTimer (loop : Loop ε) (handler : HandlerId) (now : Instant)
    (interval : Duration) (mode : TimerMode) : Option TimerId × Loop ε :=
  if loop.accepts handler then
    let (id, earliest, timers) := loop.timers.insert handler now interval mode
    let active := loop.updateSlot handler .activate
    (some id, { active with timers, signalled := loop.signalled || earliest })
  else
    (none, loop)

/-- Disarm a timer of the handler.  The answer says whether it was armed. -/
def stopTimer (loop : Loop ε) (handler : HandlerId) (id : TimerId) :
    Bool × Loop ε :=
  if loop.timers.owner? id = some handler then
    let (found, timers) := loop.timers.erase id
    (found, { loop with timers })
  else
    (false, loop)

/-- Disarm a timer of the handler and arm another one, in one step. -/
def stopAddTimer (loop : Loop ε) (handler : HandlerId) (old : TimerId)
    (now : Instant) (interval : Duration) (mode : TimerMode) :
    Bool × Option TimerId × Loop ε :=
  let (stopped, loop) := loop.stopTimer handler old
  let (id, loop) := loop.addTimer handler now interval mode
  (stopped, id, loop)

def filter {σ : Type} (loop : Loop ε) (visit : Visit σ ε) (state : σ) :
    Filtering σ ε × Loop ε :=
  let (filtering, inner) := loop.toLoopState.filter visit state
  (filtering, { loop with toLoopState := inner })

def filterFor {σ : Type} (loop : Loop ε) (handler : HandlerId)
    (visit : Visit σ ε) (state : σ) : Filtering σ ε × Loop ε :=
  loop.filter (visit.onlyFor handler) state

/--
Begin to remove a handler: take back its events and timers, and accept no more.
If its callback is running the removal is complete when the callback ends; all
but the worker itself have to wait for that.  There is no answer if the handler
has been removed before.
-/
def beginRemoval (loop : Loop ε) (handler : HandlerId) (remover : Remover) :
    Option (Removal ε) × Loop ε :=
  if (loop.slots handler).state = .removed then
    (none, loop)
  else
    let (purged, inner) := loop.toLoopState.purge handler
    let (disarmed, inner) := inner.disarmAll handler
    match loop.active with
    | some active =>
        if active.handler = handler then
          let closing :=
            { loop with toLoopState := inner }.updateSlot handler
              (·.setState .removing)
          match remover with
          | .worker => (some ⟨purged, disarmed, false⟩, closing)
          | .thread id =>
              let active := { active with waiters := active.waiters ++ [id] }
              (some ⟨purged, disarmed, true⟩,
                { closing with active := some active })
        else
          (some ⟨purged, disarmed, false⟩,
            { loop with toLoopState := inner }.updateSlot handler
              (·.setState .removed))
    | none =>
        (some ⟨purged, disarmed, false⟩,
          { loop with toLoopState := inner }.updateSlot handler
            (·.setState .removed))

def requestStop (loop : Loop ε) : Loop ε :=
  if loop.quit then loop else { loop with quit := true, signalled := true }

def nextWork (loop : Loop ε) (now : Instant) : Work ε × Loop ε :=
  let (work, inner) := loop.toLoopState.nextWork now
  (work, { loop with toLoopState := inner })

def consumeSignal (loop : Loop ε) : Loop ε :=
  { loop with signalled := false }

/-- Mark a handler as the one whose callback runs. -/
def beginDelivery (loop : Loop ε) (handler : HandlerId) : Loop ε :=
  { loop with active := some ⟨handler, []⟩ }

def waiters (loop : Loop ε) : List ThreadId :=
  (loop.active.map (·.waiters)).getD []

/-- Take the mark off, complete a removal, and let the waiting threads go. -/
def endDelivery (loop : Loop ε) (handler : HandlerId) :
    List ThreadId × Loop ε :=
  (loop.waiters,
    { loop with active := none }.updateSlot handler .finishRemoval)

/-- Complete a removal whose remover has been left without an answer. -/
def finishRemoval (loop : Loop ε) (handler : HandlerId) : Loop ε :=
  loop.updateSlot handler .finishRemoval

/-- Give up all work.  The answer has the events and the number of timers. -/
def shutDown (loop : Loop ε) : (List (QueuedEvent ε) × Nat) × Loop ε :=
  ((loop.queue, loop.timers.size),
    { loop with queue := [], timers := loop.timers.clear })

end Loop

end Reactor
