/-
# Clauses

A clause is a condition in the query language: comparisons, joined by AND and OR.

* `Clause.all` and `Clause.any` join clauses.  A fresh constant, one that no joining made, is
  dropped where it changes nothing and decides the whole where it settles it; what is left of one
  clause is that clause, and a joining inside a joining of the same kind is merged into it.
* `Clause.pieces` writes a clause: OR inside AND stands between parentheses, AND inside OR does
  not need them.  A clause without text is left out of a joining.
-/
import Realty.Sql.Bind
import Realty.Sql.Template

namespace Realty.Sql

/-! ## 1. Pieces of text -/

/-- A value with the type it is bound with, and what its parameter is named after. -/
structure Bind where
  label : String
  value : Value
  type : BindType

/-- A piece of a statement. -/
inductive Piece where
  /-- Text as it stands. -/
  | text (s : String)
  /-- A bound value; its parameter is numbered when the statement is written. -/
  | bind (b : Bind)
  /-- The list after IN, bound as one parameter. -/
  | list (b : Bind) (values : List Value)
  /-- A bound value whose parameter has a name of its own. -/
  | named (name : String) (value : Value)
  | conj
  | disj
  | opening
  | closing

/-- Whether a piece has no text. -/
def Piece.isEmpty : Piece → Bool
  | .text s => s.isEmpty
  | _ => false

/-! ## 2. Clauses -/

/-- A condition in the query language. -/
inductive Clause where
  /-- A constant; a fresh one was made by no joining. -/
  | constant (b isFresh : Bool)
  /-- A comparison, or text of the caller. -/
  | leaf (pieces : List Piece)
  /-- Clauses joined by AND. -/
  | conj (cs : List Clause)
  /-- Clauses joined by OR. -/
  | disj (cs : List Clause)

namespace Clause

/-- Whether a clause is the fresh constant of a truth value. -/
def isFresh (b : Bool) : Clause → Bool
  | .constant c true => c == b
  | _ => false

/-- The clauses that a clause brings into a conjunction. -/
def conjuncts : Clause → List Clause
  | .conj cs => cs
  | c => [c]

/-- The clauses that a clause brings into a disjunction. -/
def disjuncts : Clause → List Clause
  | .disj cs => cs
  | c => [c]

/-- Joins clauses: `unit` is the constant that changes nothing. -/
def combine (unit : Bool) (join : List Clause → Clause) (cs : List Clause) : Clause :=
  if cs.isEmpty then .constant unit true
  else if cs.any (isFresh !unit) then .constant (!unit) false
  else match cs.filter fun c => !c.isFresh unit with
    | [] => .constant unit false
    | [c] => c
    | rest => join rest

/-- Every clause holds. -/
def all (cs : List Clause) : Clause := combine true (fun cs => .conj (cs.flatMap conjuncts)) cs

/-- Some clause holds. -/
def any (cs : List Clause) : Clause := combine false (fun cs => .disj (cs.flatMap disjuncts)) cs

/-! ## 3. Text -/

/-- Pieces written one after the other with a separator; what has no text is left out. -/
def joinPieces (sep : Piece) (parts : List (List Piece)) : List Piece :=
  (parts.filter fun ps => !ps.all Piece.isEmpty).intersperse [sep] |>.flatten

/-- Whether a clause needs parentheses inside a conjunction. -/
def isDisjunction : Clause → Bool
  | .disj _ => true
  | _ => false

mutual

/-- The text of a clause. -/
def pieces : Clause → List Piece
  | .constant b _ => [.text (boolText b)]
  | .leaf ps => ps
  | .conj cs => joinPieces .conj (operands cs)
  | .disj cs => joinPieces .disj (alternatives cs)

/-- The text of each clause of a conjunction. -/
def operands : List Clause → List (List Piece)
  | [] => []
  | c :: cs =>
    (if c.isDisjunction then .opening :: c.pieces ++ [.closing] else c.pieces) :: operands cs

/-- The text of each clause of a disjunction. -/
def alternatives : List Clause → List (List Piece)
  | [] => []
  | c :: cs => c.pieces :: alternatives cs

end

end Clause

end Realty.Sql
