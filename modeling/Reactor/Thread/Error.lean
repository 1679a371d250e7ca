/-!
# Failures to start a thread

A worker thread is not started while an earlier one has not been joined, nor
when the system refuses.  Each failure has a text, and the refusal has a cause.
-/

namespace Reactor

/-- Why a worker thread was not started. -/
inductive ThreadError where
  /-- The thread started last has not been joined. -/
  | alreadyRunning (name : String)
  /-- The system refused, for the stated cause. -/
  | spawn (name cause : String)
  deriving DecidableEq

namespace ThreadError

def message : ThreadError -> String
  | alreadyRunning name => "worker thread '" ++ name ++ "' is already running"
  | spawn name _ => "failed to spawn worker thread '" ++ name ++ "'"

/-- The failure behind this one. -/
def source? : ThreadError -> Option String
  | alreadyRunning _ => none
  | spawn _ cause => some cause

/-- The name of the kind of failure. -/
def kindName : ThreadError -> String
  | alreadyRunning _ => "ThreadAlreadyRunning"
  | spawn _ _ => "ThreadSpawn"

end ThreadError

end Reactor
