import Reactor.Text.Hidden

/-!
# Quoted texts

A text in quotes on one line.  Quotes and backslashes have a backslash in front
of them, and what could not be seen is given by name or by number.
-/

namespace Reactor.Text

/-- The number of a character in lower-case hexadecimal digits. -/
def hexNumber (n : Nat) : List Char :=
  Nat.toDigits 16 n

/-- A character as it stands in a quoted text. -/
def shown (c : Char) : List Char :=
  if c = '"' ∨ c = '\\' then ['\\', c]
  else if c = '\n' then ['\\', 'n']
  else if c = '\r' then ['\\', 'r']
  else if c = '\t' then ['\\', 't']
  else if c.toNat = 0 then ['\\', '0']
  else if c.toNat < 0x20 ∨ c.toNat = 0x7f ∨ isHidden c then
    '\\' :: 'u' :: '\x7b' :: hexNumber c.toNat ++ ['\x7d']
  else [c]

def quote (text : String) : String :=
  String.ofList ('"' :: (text.toList.flatMap shown ++ ['"']))

end Reactor.Text
