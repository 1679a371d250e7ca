/-!
# Threads

Threads are told apart by numbers, which is all that locks need of them.
-/

namespace Reactor

/-- Identity of a thread. -/
structure ThreadId where
  value : Nat
  deriving DecidableEq

end Reactor
