import Reactor.Dispatch
import Reactor.Timer.Basic

/-!
# Actions

Scenarios are scripts of actions on event loops and handlers, which are named
by labels.  Actions are carried out by the main thread, by callbacks, by the
scripts of timers, and by handlers and tokens that are being destroyed.  Events
can carry actions, and tokens that act when they are destroyed.
-/

namespace Reactor.Scenario

/-- A condition on queued events: all its parts have to hold. -/
structure Pattern where
  kinds : Option (List String)
  handlers : Option (List String)
  /-- How many events were looked at before. -/
  indices : Option (List Nat)
  /-- Texts of notes and pairs. -/
  texts : Option (List String)
  /-- Pairs with an even number, or with an odd one. -/
  even : Option Bool
  never : Bool
  /-- Looking at the event with this index fails. -/
  failAt : Option Nat

inductive Kind where
  | note
  | pair
  | unit
  | boom
  | act
  | hold
  | carry
  | tracked
  | timer
  deriving DecidableEq

mutual

/-- Something that acts when it is destroyed, and may fail then. -/
inductive Token where
  | mk (label : String) (actions : List Action) (failure : Option String)

/-- An event that is to be posted. -/
inductive Posting where
  | note (text : String)
  | pair (number : Int) (text : String)
  | unit
  | boom (message : String)
  | act (actions : List Action)
  | hold (actions : List Action)
  | carry (token : Token)
  | tracked (token : Token)

inductive Deed where
  | newLoop (loop : String) (name : Option String) (stackSize : Option Nat)
  | newHandler (loop handler : String) (raw dead : Bool) (chain : List Kind)
      (onDrop : List Action) (maxTicks : Nat)
  | send (handler : String) (posting : Posting)
  | sendMany (handler : String) (count : Nat) (text : String)
  | addTimer (handler : String) (interval : Duration) (mode : TimerMode)
  | stopTimer (handler : String) (id : TimerId)
  | stopAddTimer (handler : String) (id : TimerId) (interval : Duration)
      (mode : TimerMode)
  | onTick (handler : String) (id : TimerId) (scripts : List (List Action))
  | filterHandler (handler : String) (pattern : Pattern)
  | filterLoop (loop : String) (pattern : Pattern)
  | remove (handler : String)
  | removeAsync (handler : String)
  | state (handler : String)
  | compare (first second : String)
  | pending (loop : String)
  | timers (loop : String)
  | name (loop : String)
  | active (loop : String)
  | signalled (loop : String)
  | isWorker (loop : String)
  | threadName
  | describeHandler (handler : String)
  | describeLoop (loop : String)
  | drop (handler : String) (unwinding : Bool)
  | stop (loop : String)
  | stopAsync (loop : String)
  | dropLoop (loop : String) (unwinding : Bool)
  | release (loop : String)
  | settle
  | drain (loop : String) (time : Duration)
  | record (text : String)
  | fail (message : String)

/-- A deed, the failure of which may be caught. -/
inductive Action where
  | mk (deed : Deed) (catches : Bool)

end

namespace Action

def deed : Action -> Deed
  | mk deed _ => deed

def catches : Action -> Bool
  | mk _ catches => catches

end Action

namespace Kind

abbrev Values : Kind -> Type
  | note => String
  | pair => Int × String
  | unit => Unit
  | boom => String
  | act => List Action
  | hold => List Action
  | carry => Token
  | tracked => Token
  | timer => TimerId

def name : Kind -> String
  | note => "Note"
  | pair => "Pair"
  | unit => "Unit"
  | boom => "Boom"
  | act => "Act"
  | hold => "Hold"
  | carry => "Carry"
  | tracked => "tracked"
  | timer => "TimerEvent"

/-- The links of a handler that is given no chain of its own. -/
def defaultChain : List Kind :=
  [note, pair, unit, timer, boom, act, hold, carry]

end Kind

instance : EventFamily Kind where
  kindEq := inferInstance
  Values := Kind.Values
  kindName := Kind.name
  payload kind := kind ≠ .tracked

def Posting.event : Posting -> Event Kind
  | note text => ⟨.note, text⟩
  | pair number text => ⟨.pair, (number, text)⟩
  | unit => ⟨.unit, ()⟩
  | boom message => ⟨.boom, message⟩
  | act actions => ⟨.act, actions⟩
  | hold actions => ⟨.hold, actions⟩
  | carry token => ⟨.carry, token⟩
  | tracked token => ⟨.tracked, token⟩

def ownedToken? (event : Event Kind) : Option Token :=
  (event.view? .carry).or (event.view? .tracked)

namespace Deed

/-- The name of a deed in the log. -/
def verb : Deed -> String
  | newLoop .. => "new_loop"
  | newHandler .. => "new_handler"
  | send .. => "send"
  | sendMany .. => "send_many"
  | addTimer .. => "add_timer"
  | stopTimer .. => "stop_timer"
  | stopAddTimer .. => "stop_add_timer"
  | onTick .. => "on_tick"
  | filterHandler .. | filterLoop .. => "filter"
  | remove .. => "remove"
  | removeAsync .. => "remove_async"
  | state .. => "state"
  | compare .. => "cmp"
  | pending .. => "pending"
  | timers .. => "timers"
  | name .. => "name"
  | active .. => "active"
  | signalled .. => "signalled"
  | isWorker .. => "is_worker"
  | threadName => "thread_name"
  | describeHandler .. | describeLoop .. => "debug"
  | drop .. => "drop"
  | stop .. => "stop"
  | stopAsync .. => "stop_async"
  | dropLoop .. => "drop_loop"
  | release .. => "release"
  | settle => "settle"
  | drain .. => "drain"
  | record .. => "record"
  | fail .. => "panic"

end Deed

end Reactor.Scenario
