import Reactor.Log

/-!
# What worker threads log

The records in which the library says that a worker thread was started, that it
was joined, or that it was left to itself.
-/

namespace Reactor.ThreadLog

def started (name : String) : LogRecord :=
  ⟨.debug, "worker thread started", [("thread", name)]⟩

def joined (name : String) (failed : Bool) : LogRecord :=
  ⟨.debug, "worker thread joined",
    [("thread", name), ("panicked", toString failed)]⟩

def detaching (name : String) : LogRecord :=
  ⟨.error,
    "worker thread dropped without being joined during unwinding; detaching it",
    [("thread", name)]⟩

end Reactor.ThreadLog
