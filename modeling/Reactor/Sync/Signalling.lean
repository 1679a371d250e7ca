import Reactor.Clock
import Reactor.Machine
import Reactor.Sync.Condition
import Reactor.Sync.Mutex

/-!
# Signalling

Any number of threads use one condition and the mutex that goes with it.  Each
move below is what a thread does while it holds the mutex, or what befalls a
thread that sleeps.  A thread that goes to sleep gives the mutex back in the same
move.  One that has been woken takes the mutex again and looks at the flag, also
in one move, and sleeps on if it finds the flag clear and has time left.  Which
of the sleepers a signal wakes is left open.
-/

namespace Reactor

/-- How long a thread is ready to wait for a signal. -/
inductive Wait where
  | forever
  | lasting (timeout : Duration)
  | ending (deadline : Instant)

namespace Wait

/-- When the time is up.  A timeout that leads past the end of the clock has no such instant. -/
def deadline? (wait : Wait) (now : Instant) : Option Instant :=
  match wait with
  | forever => none
  | lasting timeout => now.add? timeout
  | ending deadline => some deadline

/-- What the caller is told, given that a signal was received or not. -/
def result (received : Bool) : Wait -> Option Bool
  | forever => none
  | lasting _ | ending _ => some received

end Wait

/-- A thread that has gone to sleep in a wait that is not over. -/
structure Waiter where
  thread : ThreadId
  wait : Wait
  deadline : Option Instant

inductive SignalMove where
  | lock (thread : ThreadId)
  | unlock (thread : ThreadId)
  /-- Signal; `sleeper` is the one that is woken, if any is. -/
  | signal (thread sleeper : ThreadId)
  | wait (thread : ThreadId) (wait : Wait)
  /-- A thread sleeps no more, since its time is up. -/
  | timeOut (thread : ThreadId)
  /-- A thread sleeps no more, for no reason at all. -/
  | rouse (thread : ThreadId)
  /-- A thread that has been woken looks at the flag. -/
  | recheck (thread : ThreadId)
  /-- Time passes. -/
  | pass (now : Instant)

inductive SignalAnswer where
  | done
  /-- Whether the signal has found the flag clear. -/
  | signalled (fresh : Bool)
  | slept
  | returned (result : Option Bool)
  deriving DecidableEq

/-- A condition with its mutex, the threads that wait, and the time. -/
structure Signalling where
  mutex : Mutex Unit
  condition : Condition
  waiters : List Waiter
  now : Instant

/-- The thread that makes a move, or whom it befalls. -/
def SignalMove.thread? : SignalMove -> Option ThreadId
  | lock thread | unlock thread | signal thread _ | wait thread _ => some thread
  | timeOut thread | rouse thread | recheck thread => some thread
  | pass _ => none

namespace Signalling

def new (now : Instant) : Signalling :=
  ⟨.new (), .new, [], now⟩

def waiter? (state : Signalling) (thread : ThreadId) : Option Waiter :=
  state.waiters.find? fun waiter => waiter.thread = thread

def leave (state : Signalling) (thread : ThreadId) : List Waiter :=
  state.waiters.eraseP fun waiter => waiter.thread = thread

def move? : Machine Signalling SignalMove SignalAnswer
  | state, .lock thread =>
      if (state.waiter? thread).isNone then
        (state.mutex.lock? thread).map fun mutex => (.done, { state with mutex })
      else
        none
  | state, .unlock thread =>
      if state.mutex.holder = some thread then
        some (.done, { state with mutex := state.mutex.unlock })
      else
        none
  | state, .signal thread sleeper =>
      if state.mutex.holder = some thread ∧
          (state.condition.sleepers = [] ∨ sleeper ∈ state.condition.sleepers) then
        some (.signalled (!state.condition.signalled),
          { state with condition := state.condition.signalTo sleeper })
      else
        none
  | state, .wait thread wait =>
      if state.mutex.holder = some thread then
        match state.condition.enter thread with
        | (true, condition) => some (.returned (wait.result true), { state with condition })
        | (false, condition) =>
            let waiter := ⟨thread, wait, wait.deadline? state.now⟩
            some (.slept,
              { state with
                mutex := state.mutex.unlock
                condition
                waiters := waiter :: state.waiters })
      else
        none
  | state, .timeOut thread =>
      if thread ∈ state.condition.sleepers ∧
          (state.waiter? thread).any fun waiter => waiter.deadline.any (· <= state.now) then
        some (.done, { state with condition := state.condition.rouse thread true })
      else
        none
  | state, .rouse thread =>
      if thread ∈ state.condition.sleepers then
        some (.done, { state with condition := state.condition.rouse thread false })
      else
        none
  | state, .recheck thread =>
      match state.waiter? thread, state.mutex.lock? thread with
      | some waiter, some mutex =>
          if state.condition.isWoken thread then
            match state.condition.recheck thread with
            | (some received, condition) =>
                some (.returned (waiter.wait.result received),
                  { state with mutex, condition, waiters := state.leave thread })
            | (none, condition) => some (.slept, { state with condition })
          else
            none
      | _, _ => none
  | state, .pass now =>
      if state.now <= now then some (.done, { state with now }) else none

abbrev Reaches := Machine.Reaches move?

/-- Moves with their answers that lead to a state, from when nobody had used the condition. -/
def Runs (past : List (SignalMove × SignalAnswer)) (state : Signalling) : Prop :=
  ∃ now, Reaches (.new now) past state

end Signalling

end Reactor
