/-
# Quoted text

The quoted form of a text, as it appears in messages and listings of values.

* The text stands between single quotes, or between double quotes when it holds a single quote
  and no double one (`quoteFor`).
* The quote in use and the backslash are escaped by a backslash; line feed, carriage return and
  tab have letters; any other unprintable character is written by its code point in two, four
  or eight hexadecimal digits.
-/
import Realty.Text.Digit
import Realty.Text.Printable

namespace Realty.Text.Quoted

/-- The quote that a text is written between. -/
def quoteFor (s : List Char) : Char :=
  if s.contains '\'' && !s.contains '"' then '"' else '\''

/-- One character inside the quotes `q`. -/
def encodeChar (q c : Char) : List Char :=
  if c = q || c = '\\' then ['\\', c]
  else if c = '\n' then ['\\', 'n']
  else if c = '\r' then ['\\', 'r']
  else if c = '\t' then ['\\', 't']
  else if isPrintable c then [c]
  else if c.toNat < 0x100 then '\\' :: 'x' :: hexPadded 2 c.toNat
  else if c.toNat < 0x10000 then '\\' :: 'u' :: hexPadded 4 c.toNat
  else '\\' :: 'U' :: hexPadded 8 c.toNat

/-- The quoted form of a text. -/
def encode (s : List Char) : List Char :=
  let q := quoteFor s
  q :: s.flatMap (encodeChar q) ++ [q]

end Realty.Text.Quoted

namespace Realty.Text

/-- The quoted form of a string. -/
def quoted (s : String) : String := String.ofList (Quoted.encode s.toList)

end Realty.Text
