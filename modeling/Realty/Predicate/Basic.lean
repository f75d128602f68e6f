/-
# Predicates on listings

A compiled search is a tree of conditions on the columns of the listings table.

* A node names columns by text and carries plain values; nothing here depends on a query
  language.  A tree may also hold a value that is no condition at all (`Predicate.other`), which
  every consumer refuses.
* `conjuncts` is the top-level terms of a conjunction, `columns` every column a tree names, and
  `columnSet` the same without repetition, in order.
* `same` is structural equality, values being compared by `Value.same`.
-/
import Realty.Distinct
import Realty.Value.Basic

namespace Realty

/-- A condition on a listing: a `Predicate`, with one case for each of its classes. -/
inductive Predicate where
  /-- The column equals the value. -/
  | equals (column : String) (value : Value)
  /-- The column equals one of the values. -/
  | inList (column : String) (values : List Value)
  /-- The column lies between inclusive bounds; a null bound is absent. -/
  | range (column : String) (minimum maximum : Value)
  /-- The column is greater than the value. -/
  | greaterThan (column : String) (value : Value)
  /-- The left column is greater than the right one. -/
  | columnGreaterThan (left right : String)
  /-- The column holds the term somewhere, whatever the case. -/
  | like (column term : String)
  /-- The column has a value. -/
  | notNull (column : String)
  /-- The date in the column is at most so many days ago. -/
  | listedWithin (column : String) (days : Value)
  /-- The listing has an open house today or later. -/
  | upcomingOpenHouse
  /-- The listing number is all digits and below the watermark of in-house listings. -/
  | exclusiveListing (column : String)
  /-- A condition in the query language itself, with the values of its placeholders. -/
  | raw (sql : String) (params : List (String × Value))
  /-- Every child holds. -/
  | allOf (children : List Predicate)
  /-- Some child holds. -/
  | anyOf (children : List Predicate)
  /-- A value that is no condition. -/
  | other (value : Value)
deriving Inhabited

namespace Predicate

/-- A lower bound alone. -/
def atLeast (column : String) (bound : Value) : Predicate := .range column bound .null

/-- An upper bound alone. -/
def atMost (column : String) (bound : Value) : Predicate := .range column .null bound

/-- The top-level terms of a conjunction, `conjuncts`; any other condition is its own term. -/
def conjuncts : Predicate → List Predicate
  | .allOf children => children
  | p => [p]

/-! ## 1. Columns -/

mutual

/-- The columns that a tree names, with repetitions; the first value that is no condition stops
the search. -/
def columns : Predicate → Except Value (List String)
  | .equals c _ => .ok [c]
  | .inList c _ => .ok [c]
  | .range c _ _ => .ok [c]
  | .greaterThan c _ => .ok [c]
  | .columnGreaterThan l r => .ok [l, r]
  | .like c _ => .ok [c]
  | .notNull c => .ok [c]
  | .listedWithin c _ => .ok [c]
  | .upcomingOpenHouse => .ok ["listing_key"]
  | .exclusiveListing c => .ok [c]
  | .raw _ _ => .ok []
  | .allOf ps => columnsOfAll ps
  | .anyOf ps => columnsOfAll ps
  | .other v => .error v

/-- The columns that the trees of a list name. -/
def columnsOfAll : List Predicate → Except Value (List String)
  | [] => .ok []
  | p :: ps =>
    match p.columns with
    | .error v => .error v
    | .ok cs => (columnsOfAll ps).map (cs ++ ·)

end

/-- The columns that a tree names, each once, in order: `columns_referenced`. -/
def columnSet (p : Predicate) : Except Value (List String) :=
  p.columns.map fun cs => (distinct cs).mergeSort fun a b => decide (a ≤ b)

/-! ## 2. Equality -/

/-- Whether two lists of named values agree in order, name by name and value by value. -/
def sameParams : List (String × Value) → List (String × Value) → Bool
  | [], [] => true
  | (a, x) :: ps, (b, y) :: qs => a == b && x.same y && sameParams ps qs
  | _, _ => false

mutual

/-- Whether two trees are equal, values being compared by value. -/
def same : Predicate → Predicate → Bool
  | .equals c x, .equals d y => c == d && x.same y
  | .inList c xs, .inList d ys => c == d && Value.sameItems xs ys
  | .range c a b, .range d x y => c == d && a.same x && b.same y
  | .greaterThan c x, .greaterThan d y => c == d && x.same y
  | .columnGreaterThan a b, .columnGreaterThan c d => a == c && b == d
  | .like c s, .like d t => c == d && s == t
  | .notNull c, .notNull d => c == d
  | .listedWithin c x, .listedWithin d y => c == d && x.same y
  | .upcomingOpenHouse, .upcomingOpenHouse => true
  | .exclusiveListing c, .exclusiveListing d => c == d
  | .raw s ps, .raw t qs => s == t && sameParams ps qs
  | .allOf ps, .allOf qs => sameAll ps qs
  | .anyOf ps, .anyOf qs => sameAll ps qs
  | .other x, .other y => x.same y
  | _, _ => false

/-- Whether two lists of trees are equal tree by tree. -/
def sameAll : List Predicate → List Predicate → Bool
  | [], [] => true
  | p :: ps, q :: qs => p.same q && sameAll ps qs
  | _, _ => false

end

end Predicate

end Realty
