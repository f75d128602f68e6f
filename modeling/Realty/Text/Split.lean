/-
# Splitting and joining

* `splitOn` cuts a text at every occurrence of one character, and there is always at least one part;
  `joined` writes parts one after the other.
* `partition` cuts at the first occurrence only.
-/

namespace Realty.Text

/-- The parts of a text between the occurrences of a separator. -/
def splitOn (sep : Char) : List Char → List (List Char)
  | [] => [[]]
  | c :: r =>
    if c = sep then [] :: splitOn sep r
    else match splitOn sep r with
      | [] => [[c]]
      | p :: ps => (c :: p) :: ps

/-- Strings written one after the other with the separator between them. -/
def joined (sep : String) (parts : List String) : String := String.intercalate sep parts

/-- The parts of a string between the occurrences of a separator. -/
def parts (sep : Char) (s : String) : List String := (splitOn sep s.toList).map String.ofList

/-- What stands before and after the first occurrence of a separator. -/
def partition (sep : Char) : List Char → Option (List Char × List Char)
  | [] => none
  | c :: r =>
    if c = sep then some ([], r) else (partition sep r).map fun (a, b) => (c :: a, b)

/-- Whether one text occurs in another. -/
def contains (sub : List Char) : List Char → Bool
  | [] => sub.isEmpty
  | c :: r => sub.isPrefixOf (c :: r) || contains sub r

end Realty.Text
