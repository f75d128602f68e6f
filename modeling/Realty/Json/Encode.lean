/-
# Writing JSON text

`Json.encode` writes a value as one line of ASCII: a comma and a space between items, a colon and
a space after a key, the keys of a mapping in order of their code points, other characters
than the printable ASCII ones by their UTF-16 code units.  Dates and decimal numbers are written
as strings of their text; tuples are written as lists.
-/
import Realty.Value.Basic

namespace Realty.Json

/-! ## 1. Strings -/

/-- A code unit written by its number. -/
def unitEscape (u : Nat) : List Char := '\\' :: 'u' :: Text.hexPadded 4 u

/-- One character of a string. -/
def encodeChar (c : Char) : List Char :=
  let n := c.toNat
  if c = '"' || c = '\\' then ['\\', c]
  else if c = '\n' then ['\\', 'n']
  else if c = '\r' then ['\\', 'r']
  else if c = '\t' then ['\\', 't']
  else if n = 8 then ['\\', 'b']
  else if n = 12 then ['\\', 'f']
  else if 32 ≤ n && n ≤ 126 then [c]
  else if n < 0x10000 then unitEscape n
  else unitEscape (0xD800 + (n - 0x10000) / 0x400) ++ unitEscape (0xDC00 + (n - 0x10000) % 0x400)

/-- A string between double quotes. -/
def encodeString (s : String) : String :=
  String.ofList ('"' :: s.toList.flatMap encodeChar ++ ['"'])

/-! ## 2. Values -/

/-- The text of a double; what is not finite is a word. -/
def encodeFloat (x : Float) : String :=
  match Double.decode x with
  | .nan => "NaN"
  | .infinity negative => if negative then "-Infinity" else "Infinity"
  | .finite .. => Double.text x

/-- Fields in order of their keys. -/
def sortFields {α : Type} (fs : List (String × α)) : List (String × α) :=
  fs.mergeSort fun a b => decide (a.1 ≤ b.1)

/-- The text of a mapping whose values are written. -/
def encodeFields (fs : List (String × String)) : String :=
  Value.bracketed "\x7b" "\x7d" ((sortFields fs).map fun (k, t) => encodeString k ++ ": " ++ t)

mutual

/-- The JSON text of a value. -/
def encode : Value → String
  | .null => "null"
  | .bool b => if b then "true" else "false"
  | .int n => Text.intText n
  | .float x => encodeFloat x
  | .str s => encodeString s
  | .decimal d => encodeString d.text
  | .date d => encodeString d.iso
  | .datetime t => encodeString (t.isoWith ' ')
  | .list xs => Value.bracketed "[" "]" (encodeItems xs)
  | .tuple xs => Value.bracketed "[" "]" (encodeItems xs)
  | .object fs => encodeFields (encodeEach fs)

/-- The JSON text of each item. -/
def encodeItems : List Value → List String
  | [] => []
  | x :: xs => encode x :: encodeItems xs

/-- The fields with the JSON text of each value. -/
def encodeEach : List (String × Value) → List (String × String)
  | [] => []
  | (k, x) :: fs => (k, encode x) :: encodeEach fs

end

end Realty.Json
