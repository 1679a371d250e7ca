/-!
# Handlers

A handler goes through four states, from its construction to the end of its
removal.  The loop refers to it through a slot, which holds the state and says
whether the handler object, the target of deliveries, exists.
-/

namespace Reactor

/-- Identity of a handler; a handler made later has a greater one. -/
structure HandlerId where
  value : Nat
  deriving DecidableEq

/-- How far a handler has come.  The loop moves it forward only. -/
inductive HandlerState where
  /-- Bound to a loop that has accepted no work for it. -/
  | constructed
  /-- Its loop has accepted work for it and accepts more. -/
  | active
  /-- Removal has begun; a callback that was running may still run. -/
  | removing
  /-- Removal is complete and no callback will start. -/
  | removed
  deriving DecidableEq

namespace HandlerState

/-- Place of a state in the life of a handler. -/
def rank : HandlerState -> Nat
  | constructed => 0
  | active => 1
  | removing => 2
  | removed => 3

def text : HandlerState -> String
  | constructed => "constructed"
  | active => "active"
  | removing => "removing"
  | removed => "removed"

/-- The state as it is shown inside the description of its handler. -/
def title : HandlerState -> String
  | constructed => "Constructed"
  | active => "Active"
  | removing => "Removing"
  | removed => "Removed"

def acceptsWork : HandlerState -> Bool
  | constructed | active => true
  | removing | removed => false

/-- The state after work has been accepted. -/
def activated : HandlerState -> HandlerState
  | constructed => active
  | state => state

/-- The state after the last callback has ended. -/
def afterCallback : HandlerState -> HandlerState
  | removing => removed
  | state => state

/-- The end of a callback never takes a handler back. -/
theorem rank_le_rank_afterCallback (state : HandlerState) :
    state.rank <= state.afterCallback.rank := by
  cases state <;> decide

theorem acceptsWork_iff {state : HandlerState} :
    state.acceptsWork = true ↔ state.rank <= 1 := by
  cases state <;> decide

end HandlerState

inductive Target where
  /-- Under construction: its core is in use, it cannot be called yet. -/
  | building
  | alive
  /-- Its destruction has begun, or it never existed. -/
  | gone
  deriving DecidableEq

structure HandlerSlot where
  state : HandlerState
  target : Target
  deriving DecidableEq

namespace HandlerSlot

/-- A handler as it is first bound to its loop. -/
def fresh (target : Target) : HandlerSlot :=
  ⟨.constructed, target⟩

def setState (slot : HandlerSlot) (state : HandlerState) : HandlerSlot :=
  { slot with state }

def activate (slot : HandlerSlot) : HandlerSlot :=
  slot.setState slot.state.activated

def finishRemoval (slot : HandlerSlot) : HandlerSlot :=
  slot.setState slot.state.afterCallback

def acceptsWork (slot : HandlerSlot) : Bool :=
  slot.state.acceptsWork

/-- Whether a callback can be made: the object is complete and not going away. -/
def callable (slot : HandlerSlot) : Bool :=
  slot.target = .alive

def lose (slot : HandlerSlot) : HandlerSlot :=
  { slot with target := .gone }

def text (slot : HandlerSlot) (id : String) : String :=
  "HandlerSlot \x7b id: " ++ id ++ ", state: " ++ slot.state.title ++ ", .. \x7d"

/-- What giving up the last hold on a handler calls for. -/
inductive Parting where
  | nothing
  /-- Other failures are on their way: the handler is removed on the spot. -/
  | removeNow
  /-- A handler in use was given up without being removed. -/
  | abort
  deriving DecidableEq

/--
Giving up a handler is harmless except while it is active.  Then it ends the
program, or, if the thread is unwinding, removes the handler.
-/
def parting (slot : HandlerSlot) (unwinding : Bool) : Parting :=
  if slot.state = .active then
    if unwinding then .removeNow else .abort
  else
    .nothing

end HandlerSlot

end Reactor
