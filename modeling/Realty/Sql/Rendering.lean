/-
# Writing statements

* `Rendering.ofPieces` writes pieces as a statement with parameters: a bound value is named after
  its column and numbered from one in the order of the text; named values keep their names.  The
  parameters are listed in the order in which the text first names them.
* `literalText` writes the values in place instead.
-/
import Realty.Sql.Condition

namespace Realty.Sql

/-- A statement and its parameters. -/
structure Rendering where
  sql : String := ""
  params : List (String × Value) := []
  /-- What the numbered parameters so far are named after. -/
  labels : List String := []
  /-- The names of the numbered parameters so far. -/
  numbered : List String := []

/-- The place of a value in a statement, with its cast. -/
def placeholder (name : String) (t : BindType) : String :=
  "%(" ++ name ++ ")s" ++
    match t.castName? with
    | some cast => "::" ++ cast
    | none => ""

namespace Rendering

/-- A rendering with more text. -/
def append (r : Rendering) (s : String) : Rendering := { r with sql := r.sql ++ s }

/-- The name of the next parameter that is named after a label. -/
def nextName (r : Rendering) (label : String) : String :=
  label ++ "_" ++ Text.intText ((r.labels.count label + 1 : Nat) : Int)

/-- A rendering with a numbered parameter, whose name the text makes use of. -/
def bindNumbered (r : Rendering) (label : String) (v : Value) (text : String → String) :
    Except RenderError Rendering :=
  let name := r.nextName label
  if r.params.any fun (n, _) => n == name then .error (.conflict name)
  else .ok {
    sql := r.sql ++ text name
    params := r.params ++ [(name, v)]
    labels := label :: r.labels
    numbered := name :: r.numbered }

/-- Parameters with a value for a name; a name that is there keeps its place. -/
def setParam (name : String) (v : Value) : List (String × Value) → List (String × Value)
  | [] => [(name, v)]
  | (n, w) :: ps => if n = name then (n, v) :: ps else (n, w) :: setParam name v ps

/-- A rendering with a named parameter. -/
def bindNamed (r : Rendering) (name : String) (v : Value) : Except RenderError Rendering :=
  if r.numbered.contains name then .error (.conflict name)
  else .ok { r with
    sql := r.sql ++ placeholder name (.ofValue v)
    params := setParam name v r.params }

/-- The parameter of a list, as it is written before the list is known. -/
def listPlaceholder (t : BindType) (name : String) : String :=
  let base := "__[POSTCOMPILE_" ++ name
  if t.family = .place then base ++ "~~ST_GeomFromEWKT(~~REPL~~)~~]" else base ++ "]"

/-- A rendering with one more piece. -/
def step (r : Rendering) : Piece → Except RenderError Rendering
  | .text s => .ok (r.append s)
  | .bind b => r.bindNumbered b.label b.value fun name =>
      placeholder name b.type
  | .list b _ => r.bindNumbered b.label b.value (listPlaceholder b.type)
  | .named name v => r.bindNamed name v
  | .conj => .ok (r.append " AND ")
  | .disj => .ok (r.append " OR ")
  | .opening => .ok (r.append "(")
  | .closing => .ok (r.append ")")

/-- A rendering with more pieces. -/
def run (r : Rendering) : List Piece → Except RenderError Rendering
  | [] => .ok r
  | p :: ps => do run (← r.step p) ps

/-- The statement that pieces write. -/
def ofPieces (ps : List Piece) : Except RenderError Rendering := ({} : Rendering).run ps

end Rendering

/-- The list after IN, with the values in place.  An empty list matches nothing. -/
def literalList (t : BindType) : List Value → Except LiteralError String
  | [] => .ok "NULL) AND (1 != 1"
  | vs => do return Text.joined ", " (← vs.mapM (literal t))

/-- A piece with its values in place. -/
def literalPiece : Piece → Except LiteralError String
  | .text s => .ok s
  | .bind b => literal b.type b.value
  | .list b vs => literalList b.type vs
  | .named _ v => (literal (.ofValue v) v).map fun s =>
      String.ofList (Template.unescape s.toList)
  | .conj => .ok " AND "
  | .disj => .ok " OR "
  | .opening => .ok "("
  | .closing => .ok ")"

/-- The statement that pieces write, with the values in place. -/
def literalText (ps : List Piece) : Except RenderError String :=
  match ps.mapM literalPiece with
  | .ok ss => .ok (String.join ss)
  | .error e => .error (.literal e)

end Realty.Sql
