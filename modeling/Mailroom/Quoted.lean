import Mailroom.Quoted.Blank
import Mailroom.Quoted.Joining
import Mailroom.Quoted.Unassigned

/-!
# Quoted text

A text between double quotes, in one line of visible characters: what has no shape of its own is written by its number.
-/

namespace Mailroom.Quoted

/-- The character has no shape of its own: it is blank, joins the one before it, or is no character at all. -/
def isShapeless (c : Char) : Bool := blank.contains c || joining.contains c || unassigned.contains c

/-- A number in lower case hexadecimal, without leading zeros. -/
def hex (n : Nat) : List Char := Nat.toDigits 16 n

/-- One character inside the quotes. -/
def encodeChar (c : Char) : List Char :=
  if c = '"' then ['\\', '"']
  else if c = '\\' then ['\\', '\\']
  else if c = '\n' then ['\\', 'n']
  else if c = '\r' then ['\\', 'r']
  else if c = '\t' then ['\\', 't']
  else if c = '\x00' then ['\\', '0']
  else if isShapeless c then ['\\', 'u', '\x7b'] ++ hex c.toNat ++ ['\x7d']
  else [c]

/-- The text between double quotes. -/
def encode (s : String) : String :=
  String.ofList (['"'] ++ s.toList.flatMap encodeChar ++ ['"'])

end Mailroom.Quoted
