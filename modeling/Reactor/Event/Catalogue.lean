import Reactor.Datum
import Reactor.Event.Basic
import Reactor.Timer.Basic

/-!
# A catalogue of event kinds

Kinds of every number of values up to eight, two of which carry the same
values, one that shows another name than its own, one that is no payload, and
the kind of timer events.  What a kind carries is given by a list of shapes,
so its values can be read from data and written as data.
-/

namespace Reactor.Catalogue

/-- What one value of an event looks like. -/
inductive Shape where
  | int
  | text
  | flag
  | ints
  | optionalInt
  | timer
  deriving DecidableEq

namespace Shape

abbrev Value : Shape -> Type
  | int => Int
  | text => String
  | flag => Bool
  | ints => List Int
  | optionalInt => Option Int
  | timer => TimerId

def read : (shape : Shape) -> Datum -> Option shape.Value
  | int, .int n => some n
  | text, .text s => some s
  | flag, .bool b => some b
  | ints, .list items => items.mapM fun
      | .int n => some n
      | _ => none
  | optionalInt, .int n => some (some n)
  | optionalInt, .null => some none
  | timer, .int n => if 0 < n then some ⟨n.toNat⟩ else none
  | _, _ => none

def write : (shape : Shape) -> shape.Value -> Datum
  | int, n => .int n
  | text, s => .text s
  | flag, b => .bool b
  | ints, items => .list (items.map .int)
  | optionalInt, some n => .int n
  | optionalInt, none => .null
  | timer, id => .int id.value

end Shape

/-- One value for each shape. -/
def Tuple : List Shape -> Type
  | [] => Unit
  | shape :: rest => shape.Value × Tuple rest

namespace Tuple

/-- Read one value for each shape, and no more. -/
def read : (shapes : List Shape) -> List Datum -> Option (Tuple shapes)
  | [], [] => some ()
  | shape :: rest, datum :: data => do
      let value ← shape.read datum
      let values ← read rest data
      return (value, values)
  | _, _ => none

def write : (shapes : List Shape) -> Tuple shapes -> List Datum
  | [], _ => []
  | shape :: rest, (value, values) => shape.write value :: write rest values

end Tuple

inductive Kind where
  | k0 | k1 | k2 | twin2 | k3 | k4 | k5 | k6 | k7 | k8
  | timer
  /-- Its events show another name than its own. -/
  | renamed
  /-- No payload: its values cannot be handed on. -/
  | bare
  deriving DecidableEq, Hashable

namespace Kind

def all : List Kind :=
  [k0, k1, k2, twin2, k3, k4, k5, k6, k7, k8, timer, renamed, bare]

def name : Kind -> String
  | k0 => "K0"
  | k1 => "K1"
  | k2 => "K2"
  | twin2 => "Twin2"
  | k3 => "K3"
  | k4 => "K4"
  | k5 => "K5"
  | k6 => "K6"
  | k7 => "K7"
  | k8 => "K8"
  | timer => "TimerEvent"
  | renamed => "Renamed"
  | bare => "Opaque"

def shownName : Kind -> String
  | renamed => "renamed::Other"
  | bare => "custom-name"
  | kind => kind.name

def shapes : Kind -> List Shape
  | k0 | bare => []
  | k1 | renamed => [.int]
  | k2 | twin2 => [.int, .text]
  | k3 => [.flag, .text, .int]
  | k4 => List.replicate 4 .int
  | k5 => [.text, .ints, .optionalInt, .flag, .text]
  | k6 => List.replicate 6 .int
  | k7 => [.text, .int, .text, .int, .text, .int, .text]
  | k8 => List.replicate 8 .int
  | timer => [.timer]

def ofName? (name : String) : Option Kind :=
  all.find? fun kind => kind.name = name

end Kind

instance : EventFamily Kind where
  kindEq := inferInstance
  Values kind := Tuple kind.shapes
  kindName := Kind.name
  shownName := Kind.shownName
  payload kind := kind ≠ .bare

/-- An event of this kind with these values, if they have the right shapes. -/
def event? (kind : Kind) (values : List Datum) : Option (Event Kind) :=
  (Tuple.read kind.shapes values).map fun values => ⟨kind, values⟩

/-- The values that an event of this kind carries. -/
def data (kind : Kind) (values : EventFamily.Values kind) : List Datum :=
  Tuple.write kind.shapes values

end Reactor.Catalogue
