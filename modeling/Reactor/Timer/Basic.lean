import Reactor.Clock

/-!
# Timers

A timer has an owner, an interval and a mode.  While it is armed it also has an
identifier and a deadline; armed timers are ordered by deadline, and by
identifier where deadlines agree, so of two that are due together the one armed
first comes first.
-/

namespace Reactor

/-- Identity of a timer within one loop; the first one issued is 1. -/
structure TimerId where
  value : Nat
  deriving DecidableEq

namespace TimerId

def text (id : TimerId) : String :=
  Nat.repr id.value

end TimerId

/-- Whether a timer fires once, or each time its interval has passed. -/
inductive TimerMode where
  | oneShot
  | repeating
  deriving DecidableEq

structure Timer (ω : Type) where
  owner : ω
  interval : Duration
  mode : TimerMode

/-- A timer that waits for its deadline. -/
structure ArmedTimer (ω : Type) extends Timer ω where
  id : TimerId
  deadline : Instant

namespace ArmedTimer

variable {ω : Type}

/-- The order in which armed timers become due. -/
def before (a b : ArmedTimer ω) : Prop :=
  a.deadline < b.deadline ∨ (a.deadline = b.deadline ∧ a.id.value < b.id.value)

instance (a b : ArmedTimer ω) : Decidable (a.before b) :=
  inferInstanceAs (Decidable (_ ∨ _))

/-- The timer with a later firing to come, counted from the reading `now`. -/
def rearm (timer : ArmedTimer ω) (now : Instant) : ArmedTimer ω :=
  { timer with deadline := now.deadlineAfter timer.interval }

end ArmedTimer

end Reactor
