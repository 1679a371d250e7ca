/-!
# Events

The kind of an event is its identity: it fixes what the event carries.  An
`EventFamily` gives, for a type of kinds, what each kind carries, the name of
the kind, and the name under which its events show themselves, which may be
another one.  An `Event` has lost its kind from its type; `Event.view?` finds
it again.
-/

namespace Reactor

/-- A type of event kinds and what belongs to each of them. -/
class EventFamily (κ : Type) where
  kindEq : DecidableEq κ
  /-- What an event of a kind carries. -/
  Values : κ -> Type
  kindName : κ -> String
  /-- The name under which events of the kind show themselves. -/
  shownName : κ -> String := kindName
  /-- Whether the values can be handed on as arguments. -/
  payload : κ -> Bool := fun _ => true

attribute [reducible, instance] EventFamily.kindEq

open EventFamily (Values)

structure Event (κ : Type) [EventFamily κ] where
  kind : κ
  values : Values kind

/-- What identifies a kind, with a name that takes no part in the comparison. -/
structure EventToken (κ : Type) where
  kind : κ
  name : String

namespace EventToken

variable {κ : Type} [EventFamily κ]

def ofKind (kind : κ) : EventToken κ :=
  ⟨kind, EventFamily.kindName kind⟩

instance : BEq (EventToken κ) :=
  ⟨fun a b => a.kind = b.kind⟩

instance [Hashable κ] : Hashable (EventToken κ) :=
  ⟨fun token => hash token.kind⟩

def text (token : EventToken κ) : String :=
  "EventKind(\"" ++ token.name ++ "\")"

end EventToken

namespace Event

variable {κ : Type} [EventFamily κ]

def name (event : Event κ) : String :=
  EventFamily.shownName event.kind

/-- The token of the event's kind, under the name that the event shows. -/
def token (event : Event κ) : EventToken κ :=
  ⟨event.kind, event.name⟩

def isOf (event : Event κ) (kind : κ) : Bool :=
  event.kind = kind

def view? (event : Event κ) (kind : κ) : Option (Values kind) :=
  if h : event.kind = kind then
    some (h ▸ event.values)
  else
    none

/-- The values of an event of this kind, or else the event itself. -/
def downcast (event : Event κ) (kind : κ) : Values kind ⊕ Event κ :=
  match event.view? kind with
  | some values => .inl values
  | none => .inr event

def text (event : Event κ) : String :=
  "Event \x7b kind: \"" ++ event.name ++ "\", .. \x7d"

end Event

end Reactor
