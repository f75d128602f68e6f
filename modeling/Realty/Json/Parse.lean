/-
# Reading JSON text

* `Json.parse` reads one JSON value, with blanks around it, and fails with the first thing that
  is wrong (`Json.Error`).
* Besides the standard forms the words `NaN`, `Infinity` and `-Infinity` are numbers.  A number
  without fraction and exponent is an integer, and one of more than `maxIntegerDigits` digits is
  refused.
* An escape of a lone surrogate half reads as the replacement character: no text holds the half
  itself (`Value.str`).
* The parsers recurse on fuel.  Every step consumes a character, so the length of the text is
  enough.  The room for open brackets is another matter: a text with more of them fails.
-/
import Realty.Value.Basic

namespace Realty.Json

/-! ## 1. Errors -/

/-- What is wrong with a JSON text. -/
inductive Error where
  | byteOrderMark
  | expectingValue
  | expectingComma
  | expectingColon
  | expectingName
  | unterminatedString
  | controlCharacter
  | invalidEscape
  | invalidUnicodeEscape
  | extraData
  | integerTooLong (digits : Nat)
  /-- More brackets are open at once than there is room for. -/
  | nestedTooDeeply
deriving DecidableEq, Repr

/-- The longest integer that is read. -/
def maxIntegerDigits : Nat := 4300

/-- The text of an error. -/
def Error.message : Error → String
  | .byteOrderMark => "Unexpected UTF-8 BOM (decode using utf-8-sig)"
  | .expectingValue => "Expecting value"
  | .expectingComma => "Expecting ',' delimiter"
  | .expectingColon => "Expecting ':' delimiter"
  | .expectingName => "Expecting property name enclosed in double quotes"
  | .unterminatedString => "Unterminated string starting at"
  | .controlCharacter => "Invalid control character at"
  | .invalidEscape => "Invalid \\escape"
  | .invalidUnicodeEscape => "Invalid \\uXXXX escape"
  | .extraData => "Extra data"
  | .integerTooLong digits =>
    "Exceeds the limit (" ++ Text.intText maxIntegerDigits ++ " digits) for integer string " ++
      "conversion: value has " ++ Text.intText digits ++
      " digits; use sys.set_int_max_str_digits() to increase the limit"
  | .nestedTooDeeply => "maximum recursion depth exceeded"

/-! ## 2. Numbers -/

/-- The characters that may stand between tokens. -/
def isSpace (c : Char) : Bool := c = ' ' || c = '\t' || c = '\n' || c = '\r'

/-- A text without the blanks at its start. -/
def skipSpace (s : List Char) : List Char := s.dropWhile isSpace

/-- Whether a character is an ASCII digit. -/
def isDigit (c : Char) : Bool := '0' ≤ c && c ≤ '9'

/-- The number that ASCII digits write. -/
def digitsValue (ds : List Char) : Nat := Text.ofDigits (ds.map fun c => c.toNat - 48)

/-- The digits of a fraction, when a digit follows the point. -/
def fraction (s : List Char) : List Char × List Char :=
  match s with
  | '.' :: c :: r => if isDigit c then (c :: r).span isDigit else ([], s)
  | _ => ([], s)

/-- The power of ten, when a digit follows its letter and sign. -/
def exponent? (s : List Char) : Option (Int × List Char) :=
  match s with
  | c :: r =>
    if c = 'e' || c = 'E' then
      let (negative, t) := Text.readSign r
      match t.span isDigit with
      | ([], _) => none
      | (ds, rest) => some (Text.signed negative (digitsValue ds), rest)
    else none
  | [] => none

/-- The part of a number after its sign and whole digits. -/
def numberTail (negative : Bool) (whole rest : List Char) : Except Error (Value × List Char) :=
  let (frac, r) := fraction rest
  let decimal (e : Int) : Value :=
    .float (Double.ofNumeral (.decimal negative (digitsValue (whole ++ frac)) (e - frac.length)))
  match exponent? r with
  | some (e, t) => .ok (decimal e, t)
  | none =>
    if !frac.isEmpty then .ok (decimal 0, r)
    else if whole.length > maxIntegerDigits then .error (.integerTooLong whole.length)
    else .ok (.int (Text.signed negative (digitsValue whole)), r)

/-- A number; a leading zero stands alone. -/
def number (s : List Char) : Except Error (Value × List Char) :=
  let (negative, r) := match s with
    | '-' :: r => (true, r)
    | r => (false, r)
  match r with
  | '0' :: t => numberTail negative ['0'] t
  | _ =>
    match r.span isDigit with
    | ([], _) => .error .expectingValue
    | (ds, t) => numberTail negative ds t

/-! ## 3. Strings -/

/-- The code unit of a Unicode escape, after its letter.  A character has to follow it. -/
def codeUnit (s : List Char) : Except Error (Nat × List Char) :=
  match s with
  | a :: b :: c :: d :: x :: r =>
    match Text.hexValue? a, Text.hexValue? b, Text.hexValue? c, Text.hexValue? d with
    | some a, some b, some c, some d => .ok (((a * 16 + b) * 16 + c) * 16 + d, x :: r)
    | _, _, _, _ => .error .invalidUnicodeEscape
  | _ => .error .invalidUnicodeEscape

/-- Whether a code unit is the first half of a pair. -/
def isHighHalf (u : Nat) : Bool := 0xD800 ≤ u && u ≤ 0xDBFF

/-- Whether a code unit is the second half of a pair. -/
def isLowHalf (u : Nat) : Bool := 0xDC00 ≤ u && u ≤ 0xDFFF

/-- The character of a code unit that stands alone.  A half of a pair is no character, and reads as
the replacement character. -/
def unitChar (u : Nat) : Char :=
  if isHighHalf u || isLowHalf u then Char.ofNat 0xFFFD else Char.ofNat u

/-- The character of a Unicode escape, after its letter; two escapes may make up one
character. -/
def unicodeEscape (s : List Char) : Except Error (Char × List Char) := do
  let (u, r) ← codeUnit s
  match r with
  | '\\' :: 'u' :: t =>
    if isHighHalf u && t.length > 4 then
      let (v, rest) ← codeUnit t
      if isLowHalf v then
        .ok (Char.ofNat (0x10000 + (u - 0xD800) * 0x400 + (v - 0xDC00)), rest)
      else .ok (unitChar u, r)
    else .ok (unitChar u, r)
  | _ => .ok (unitChar u, r)

/-- The character that a one-letter escape stands for. -/
def escapeChar? : Char → Option Char
  | '"' => some '"'
  | '\\' => some '\\'
  | '/' => some '/'
  | 'b' => some '\x08'
  | 'f' => some '\x0c'
  | 'n' => some '\n'
  | 'r' => some '\r'
  | 't' => some '\t'
  | _ => none

/-- The rest of a string after its opening quote. -/
def stringBody : Nat → List Char → Except Error (List Char × List Char)
  | 0, _ => .error .unterminatedString
  | _ + 1, [] => .error .unterminatedString
  | fuel + 1, c :: r =>
    if c = '"' then .ok ([], r)
    else if c = '\\' then
      match r with
      | [] => .error .unterminatedString
      | 'u' :: t => do
        let (x, t) ← unicodeEscape t
        let (xs, t) ← stringBody fuel t
        .ok (x :: xs, t)
      | e :: t =>
        match escapeChar? e with
        | none => .error .invalidEscape
        | some x => do
          let (xs, t) ← stringBody fuel t
          .ok (x :: xs, t)
    else if c.toNat < 32 then .error .controlCharacter
    else do
      let (xs, t) ← stringBody fuel r
      .ok (c :: xs, t)

/-! ## 4. Values -/

/-- A mapping with one more key; a key that is there keeps its place and takes the new value. -/
def insertField (k : String) (v : Value) : List (String × Value) → List (String × Value)
  | [] => [(k, v)]
  | (l, w) :: fs => if l = k then (k, v) :: fs else (l, w) :: insertField k v fs

/-- The text after a word, when it starts with the word. -/
def afterWord? (word : String) (s : List Char) : Option (List Char) :=
  if word.toList.isPrefixOf s then some (s.drop word.toList.length) else none

/-- The words that are values. -/
def words : List (String × Value) :=
  [("null", .null), ("true", .bool true), ("false", .bool false), ("NaN", .float Double.nan),
    ("Infinity", .float (Double.infinity false)), ("-Infinity", .float (Double.infinity true))]

/-- A word that is a value. -/
def word? (s : List Char) : Option (Value × List Char) :=
  words.findSome? fun (w, v) => (afterWord? w s).map fun r => (v, r)

mutual

/-- One value at the start of a text.  An opening bracket, also of an empty list or mapping, takes
some of the room. -/
def value : Nat → Nat → List Char → Except Error (Value × List Char)
  | 0, _, _ => .error .expectingValue
  | fuel + 1, room, s =>
    match s with
    | '"' :: r => do
      let (cs, t) ← stringBody (r.length + 1) r
      .ok (.str (String.ofList cs), t)
    | '[' :: r =>
      match room with
      | 0 => .error .nestedTooDeeply
      | room + 1 =>
        match skipSpace r with
        | ']' :: t => .ok (.list [], t)
        | t => do
          let (xs, t) ← items fuel room t
          .ok (.list xs, t)
    | '\x7b' :: r =>
      match room with
      | 0 => .error .nestedTooDeeply
      | room + 1 =>
        match skipSpace r with
        | '\x7d' :: t => .ok (.object [], t)
        | t => do
          let (fs, t) ← fields fuel room [] t
          .ok (.object fs, t)
    | s =>
      match word? s with
      | some hit => .ok hit
      | none => number s

/-- The items of a list up to its closing bracket. -/
def items : Nat → Nat → List Char → Except Error (List Value × List Char)
  | 0, _, _ => .error .expectingValue
  | fuel + 1, room, s => do
    let (x, t) ← value fuel room s
    match skipSpace t with
    | ']' :: t => .ok ([x], t)
    | ',' :: t => do
      let (xs, t) ← items fuel room (skipSpace t)
      .ok (x :: xs, t)
    | _ => .error .expectingComma

/-- The fields of a mapping up to its closing brace, added to those before. -/
def fields : Nat → Nat → List (String × Value) → List Char →
    Except Error (List (String × Value) × List Char)
  | 0, _, _, _ => .error .expectingName
  | fuel + 1, room, seen, s =>
    match s with
    | '"' :: r => do
      let (key, t) ← stringBody (r.length + 1) r
      match skipSpace t with
      | ':' :: t => do
        let (x, t) ← value fuel room (skipSpace t)
        let seen := insertField (String.ofList key) x seen
        match skipSpace t with
        | '\x7d' :: t => .ok (seen, t)
        | ',' :: t => fields fuel room seen (skipSpace t)
        | _ => .error .expectingComma
      | _ => .error .expectingColon
    | _ => .error .expectingName

end

/-- The JSON value that a text writes, with room for so many open brackets. -/
def parse (room : Nat) (s : List Char) : Except Error Value :=
  match s with
  | c :: _ =>
    if c.toNat = 0xFEFF then .error .byteOrderMark
    else do
      let (v, rest) ← value (2 * s.length + 2) room (skipSpace s)
      if (skipSpace rest).isEmpty then .ok v else .error .extraData
  | [] => .error .expectingValue

end Realty.Json
