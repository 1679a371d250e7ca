import Reactor.Event.Basic

/-!
# Dispatch

A chain of links, each for one kind of event, routes an event to the first link
of its kind.  The link takes the event and receives its values; every other
link is passed over.
-/

namespace Reactor

open EventFamily (Values)

/-- How a link receives the values. -/
inductive Receiver where
  /-- A function of the values alone. -/
  | function
  /-- A method: a function of a target object and the values. -/
  | method
  deriving DecidableEq

structure Link (κ : Type) where
  kind : κ
  receiver : Receiver

/-- A call that a link has received. -/
structure LinkCall (κ : Type) [EventFamily κ] where
  index : Nat
  link : Link κ
  values : Values link.kind

/-- An event on its way through a chain, until a link takes it. -/
structure Dispatch (κ : Type) [EventFamily κ] where
  pending : Option (Event κ)

/-- What became of an event in a chain. -/
structure Routing (κ : Type) [EventFamily κ] where
  /-- Calls in the order in which they were made. -/
  calls : List (LinkCall κ)
  /-- After each link, whether the event was still there. -/
  pendingAfter : List Bool
  final : Dispatch κ

namespace Dispatch

variable {κ : Type} [EventFamily κ]

def start (event : Event κ) : Dispatch κ :=
  ⟨some event⟩

def isPending (dispatch : Dispatch κ) : Bool :=
  dispatch.pending.isSome

def handled (dispatch : Dispatch κ) : Bool :=
  dispatch.pending.isNone

def unhandled? (dispatch : Dispatch κ) : Option (Event κ) :=
  dispatch.pending

/--
Take the values out if the event is there and of this kind.  An event that has
been taken and cannot be converted would be lost.
-/
def takeValues (dispatch : Dispatch κ) (kind : κ) :
    Option (Values kind) × Dispatch κ :=
  if dispatch.pending.any (·.isOf kind) then
    match dispatch.pending with
    | none => (none, dispatch)
    | some event =>
        match event.downcast kind with
        | .inl values => (some values, ⟨none⟩)
        | .inr _ => (none, ⟨none⟩)
  else
    (none, dispatch)

@[simp] theorem takeValues_empty (kind : κ) :
    (⟨none⟩ : Dispatch κ).takeValues kind = (none, ⟨none⟩) :=
  rfl

theorem takeValues_same (event : Event κ) :
    (start event).takeValues event.kind = (some event.values, ⟨none⟩) := by
  simp [start, takeValues, Event.isOf, Event.downcast, Event.view?]

/-- An event of another kind is not taken, and so it is not lost. -/
theorem takeValues_of_ne {event : Event κ} {kind : κ} (h : event.kind ≠ kind) :
    (start event).takeValues kind = (none, start event) := by
  simp [start, takeValues, Event.isOf, h]

/-- Pass an event on its way through links, the first of which is at `index`. -/
def pass (dispatch : Dispatch κ) (index : Nat) : List (Link κ) -> Routing κ
  | [] => ⟨[], [], dispatch⟩
  | link :: rest =>
      let (values?, after) := dispatch.takeValues link.kind
      let routing := after.pass (index + 1) rest
      { routing with
        calls :=
          match values? with
          | some values => ⟨index, link, values⟩ :: routing.calls
          | none => routing.calls
        pendingAfter := after.isPending :: routing.pendingAfter }

def route (chain : List (Link κ)) (event : Event κ) : Routing κ :=
  (start event).pass 0 chain

end Dispatch

end Reactor
