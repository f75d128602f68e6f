/-
# Placeholders in query text

A fragment of query text names its values by placeholders: a colon and a name.

* A colon starts a placeholder unless a colon, a word character or a backslash stands before it,
  or another colon after the name; a name in front of a colon loses its last character instead
  (`slotAt?`).
* A backslash in front of a colon is dropped: it says that no placeholder is meant.
* A percent sign is doubled, because the statement marks its own values by one.
* `scan` is the parts of a fragment, `names` the names of its placeholders.
-/
import Realty.Text.Word

namespace Realty.Sql.Template

/-- A part of a fragment. -/
inductive Token where
  | text (cs : List Char)
  | slot (name : List Char)
deriving DecidableEq, Repr

/-- Whether a colon after this character starts no placeholder. -/
def blocks (c : Char) : Bool := c = ':' || c = '\\' || Text.isWordChar c

/-- The name of a placeholder whose colon has just been read. -/
def slotAt? (r : List Char) : Option (List Char) :=
  let run := r.takeWhile Text.isWordChar
  let name := if (r.drop run.length).head? = some ':' then run.dropLast else run
  if name.isEmpty then none else some name

/-- Whether a character may stand in a name after a backslash and a colon. -/
def isEscapedNameChar (c : Char) : Bool := Text.isWordChar c || c = '$'

/-- Whether what follows a backslash makes it disappear: a colon and a name that no colon follows.
A colon that starts a placeholder does not count, where there may be placeholders. -/
def escapes (hasSlots : Bool) : List Char → Bool
  | ':' :: r =>
    let run := r.takeWhile isEscapedNameChar
    match r.drop run.length with
    | ':' :: t => hasSlots && run.getLast? == some '$' && (slotAt? t).isSome
    | _ => true
  | _ => false

/-- A character of a fragment outside the placeholders, with what follows it. -/
def plain (c : Char) (r : List Char) : List Char :=
  if c = '%' then ['%', '%']
  else if c = '\\' && escapes true r then []
  else [c]

/-- A text without the backslashes that escape colons. -/
def unescape : List Char → List Char
  | [] => []
  | c :: r => (if c = '\\' && escapes false r then [] else [c]) ++ unescape r

/-- The parts of a fragment after a character; the first characters, already read as a name, are
skipped. -/
def scanFrom (before : Option Char) (skip : Nat) : List Char → List Token
  | [] => []
  | c :: r =>
    match skip with
    | k + 1 => scanFrom (some c) k r
    | 0 =>
      let slot := if c = ':' && !(before.any blocks) then slotAt? r else none
      match slot with
      | some name => .slot name :: scanFrom (some c) name.length r
      | none => .text (plain c r) :: scanFrom (some c) 0 r

/-- The parts of a fragment. -/
def scan (sql : String) : List Token := scanFrom none 0 sql.toList

/-- The names of the placeholders of a fragment, in order, with repetitions. -/
def names (sql : String) : List String :=
  (scan sql).filterMap fun
    | .slot name => some (String.ofList name)
    | .text _ => none

end Realty.Sql.Template
