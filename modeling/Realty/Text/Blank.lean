/-
# Blank characters and trimming

* `isBlank` is the Unicode white space class together with the four information separators
  U+001C to U+001F.  The zero-width characters (U+180E, U+200B, U+FEFF) are not in it.
* `trim` removes blanks from both ends, and `trimWhere` the characters of any class.
-/

namespace Realty.Text

/-! ## 1. The class -/

/-- The blank characters. -/
def isBlank (c : Char) : Bool :=
  let n := c.toNat
  (9 ≤ n && n ≤ 13) || (28 ≤ n && n ≤ 32) || n == 0x85 || n == 0xA0 || n == 0x1680 ||
    (0x2000 ≤ n && n ≤ 0x200A) || n == 0x2028 || n == 0x2029 || n == 0x202F || n == 0x205F ||
    n == 0x3000

/-- White space proper: the blanks that are not information separators. -/
def isWhiteSpace (c : Char) : Bool :=
  isBlank c && !(28 ≤ c.toNat && c.toNat ≤ 31)

/-! ## 2. Trimming -/

/-- Without the leading blanks. -/
def trimLeft (s : List Char) : List Char := s.dropWhile isBlank

/-- Without the characters of a class at either end. -/
def trimWhere (p : Char → Bool) (s : List Char) : List Char :=
  ((s.dropWhile p).reverse.dropWhile p).reverse

/-- Without the blanks at either end. -/
def trim (s : List Char) : List Char := trimWhere isBlank s

/-- A text without the blanks at either end. -/
def trimmed (s : String) : String := String.ofList (trim s.toList)

end Realty.Text
