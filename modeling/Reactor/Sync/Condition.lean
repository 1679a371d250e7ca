import Reactor.Thread.Id

/-!
# Conditions

A condition has a flag that a signal sets and a wait clears.  A signal that
finds the flag set changes nothing; one that finds it clear also wakes a
sleeper.  A woken thread looks at the flag once it has the mutex again: the
flag may have been taken by another thread in the meantime, and then it goes
back to sleep, unless its time is up.
-/

namespace Reactor

/-- A thread that has been woken and has not looked at the flag yet. -/
structure Waking where
  thread : ThreadId
  /-- Its time is up, so it does not sleep again. -/
  timedOut : Bool
  deriving DecidableEq

/-- A flag and the threads that wait for it. -/
structure Condition where
  signalled : Bool
  /-- Threads that sleep, in the order in which they went to sleep. -/
  sleepers : List ThreadId
  woken : List Waking

namespace Condition

def new : Condition :=
  ⟨false, [], []⟩

/-- Take the flag off, if it is set. -/
def consume (condition : Condition) : Bool × Condition :=
  (condition.signalled, { condition with signalled := false })

/--
Begin to wait: take the flag if it is set, and otherwise go to sleep.  The
answer says whether the wait is over.
-/
def enter (condition : Condition) (thread : ThreadId) : Bool × Condition :=
  if condition.signalled then
    condition.consume
  else
    (false, { condition with sleepers := condition.sleepers ++ [thread] })

/-- Wake a sleeper, because its time is up or for no reason at all. -/
def rouse (condition : Condition) (thread : ThreadId) (timedOut : Bool) :
    Condition :=
  if thread ∈ condition.sleepers then
    { condition with
      sleepers := condition.sleepers.erase thread
      woken := condition.woken ++ [⟨thread, timedOut⟩] }
  else
    condition

/-- Set the flag and wake a sleeper, unless the flag is set already. -/
def signalTo (condition : Condition) (thread : ThreadId) : Condition :=
  if condition.signalled then
    condition
  else
    { condition with signalled := true }.rouse thread false

/-- Set the flag, and wake the thread that has slept longest. -/
def signal (condition : Condition) : Condition :=
  match condition.sleepers with
  | [] => { condition with signalled := true }
  | thread :: _ => condition.signalTo thread

/-- Whether a thread has been woken and has yet to look at the flag. -/
def isWoken (condition : Condition) (thread : ThreadId) : Bool :=
  condition.woken.any fun waking => waking.thread = thread

/--
A woken thread looks at the flag and takes it if it is set.  The answer is what
the wait returns, or nothing if the thread goes back to sleep.
-/
def recheck (condition : Condition) (thread : ThreadId) :
    Option Bool × Condition :=
  match condition.woken.find? fun waking => waking.thread = thread with
  | none => (none, condition)
  | some waking =>
      let rest := condition.woken.erase waking
      if condition.signalled then
        (some true, { condition with signalled := false, woken := rest })
      else if waking.timedOut then
        (some false, { condition with woken := rest })
      else
        (none, { condition with
          sleepers := condition.sleepers ++ [thread]
          woken := rest })

end Condition

end Reactor
