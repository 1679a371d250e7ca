/-!
# Data

Values of the usual data format: numbers, texts, lists and records.  A datum
has one compact written form, in which the fields of a record stand in the
order of their names.
-/

namespace Reactor

inductive Datum where
  | null
  | bool (value : Bool)
  | int (value : Int)
  | text (value : String)
  | list (items : List Datum)
  | record (fields : List (String × Datum))

namespace Datum

def hexDigit (n : Nat) : Char :=
  if n < 10 then Char.ofNat ('0'.toNat + n) else Char.ofNat ('a'.toNat + (n - 10))

/-- How a character is written inside a quoted text. -/
def escaped (c : Char) : List Char :=
  match c with
  | '"' => ['\\', '"']
  | '\\' => ['\\', '\\']
  | '\n' => ['\\', 'n']
  | '\r' => ['\\', 'r']
  | '\t' => ['\\', 't']
  | '\x08' => ['\\', 'b']
  | '\x0c' => ['\\', 'f']
  | c =>
      if c.toNat < 0x20 then
        ['\\', 'u', '0', '0', hexDigit (c.toNat / 16), hexDigit (c.toNat % 16)]
      else
        [c]

def quoted (value : String) : String :=
  String.ofList ('"' :: (value.toList.flatMap escaped ++ ['"']))

/-- Fields in the order of their names. -/
def sortFields (fields : List (String × String)) : List (String × String) :=
  fields.mergeSort fun a b => decide (a.1 <= b.1)

mutual

/-- The compact written form of a datum. -/
def compact : Datum -> String
  | null => "null"
  | bool true => "true"
  | bool false => "false"
  | int value => toString value
  | text value => quoted value
  | list items => "[" ++ String.intercalate "," (compactItems items) ++ "]"
  | record fields =>
      "\x7b" ++
        String.intercalate ","
          ((sortFields (compactFields fields)).map fun field =>
            quoted field.1 ++ ":" ++ field.2) ++
        "\x7d"

def compactItems : List Datum -> List String
  | [] => []
  | item :: rest => compact item :: compactItems rest

def compactFields : List (String × Datum) -> List (String × String)
  | [] => []
  | (name, value) :: rest => (name, compact value) :: compactFields rest

end

def isNull : Datum -> Bool
  | null => true
  | _ => false

def ofNat? : Option Nat -> Datum
  | some n => int n
  | none => null

end Datum

end Reactor
