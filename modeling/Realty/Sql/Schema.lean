/-
# The schema

The statements that set a database up, for each system the application runs on.

* `createTable` and `createIndexes` write a table and its indexes.  A column of points has an index
  of its own, of the kind that spatial searches use.
* `startup` lists what is executed when the application starts: the spatial extension where there
  is one, then every table with its indexes.  A system that has to be told which columns hold
  points is told after the table is there.
-/
import Realty.Sql.Column
import Realty.Text.Split

namespace Realty.Sql

/-! ## 1. Database systems -/

/-- The systems that the application runs on. -/
inductive Dialect where
  | postgres
  | sqlite
deriving DecidableEq, Repr

namespace Dialect

/-- The name of a system in the address of a database. -/
def scheme : Dialect → String
  | .postgres => "postgresql"
  | .sqlite => "sqlite"

/-- The systems. -/
def all : List Dialect := [.postgres, .sqlite]

/-- The system that the address of a database names; a driver may follow its name. -/
def ofUrl? (url : String) : Option Dialect :=
  let name := url.toList.takeWhile fun c => c ≠ ':' && c ≠ '+'
  all.find? fun d => d.scheme.toList == name

/-- The type of a column; a column of points is a plain one until the system knows about it. -/
def typeName : Dialect → ColumnType → String
  | .sqlite, .timestamp => "DATETIME"
  | .sqlite, .point => "POINT"
  | _, t => t.name

/-- The type of a primary key, which numbers the rows. -/
def keyTypeName : Dialect → String
  | .postgres => "SERIAL"
  | .sqlite => "INTEGER"

end Dialect

/-! ## 2. Tables -/

/-- A column in the definition of a table. -/
def columnDefinition (c : Column) (typeName : String) : String :=
  c.name ++ " " ++ typeName ++ if c.isRequired then " NOT NULL" else ""

/-- The lines of the definition of a table: its columns, and what is unique. -/
def tableLines (d : Dialect) (t : Table) : List String :=
  match t.columns with
  | [] => []
  | key :: cs =>
    columnDefinition key d.keyTypeName ::
      cs.map (fun c => columnDefinition c (d.typeName c.type)) ++
      ("PRIMARY KEY (" ++ key.name ++ ")") ::
        (cs.filter (·.isUnique)).map fun c => "UNIQUE (" ++ c.name ++ ")"

/-- The definition of a table. -/
def createTable (d : Dialect) (t : Table) : String :=
  "\nCREATE TABLE " ++ t.name ++ " (\n\t" ++ Text.joined ", \n\t" (tableLines d t) ++ "\n)\n\n"

/-- The columns of points of a table. -/
def Table.points (t : Table) : List Column := t.columns.filter fun c => c.type = .point

/-! ## 3. Indexes -/

/-- The definition of an index. -/
def createIndex (t : Table) (i : Index) : String :=
  "CREATE INDEX " ++ i.name ++ " ON " ++ t.name ++ " (" ++ Text.joined ", " i.columns ++ ")"

/-- The definition of the index of a column of points. -/
def createPointIndex (t : Table) (c : Column) : String :=
  "CREATE INDEX idx_" ++ t.name ++ "_" ++ c.name ++ " ON " ++ t.name ++ " USING gist (" ++ c.name ++
    ")"

/-- The definitions of the indexes of a table, sorted. -/
def createIndexes (d : Dialect) (t : Table) : List String :=
  let plain := t.indexes.map (createIndex t)
  let spatial := match d with
    | .postgres => t.points.map (createPointIndex t)
    | .sqlite => []
  (spatial ++ plain).mergeSort fun a b => decide (a ≤ b)

/-! ## 4. Startup -/

/-- A call of a spatial function with so many arguments. -/
def spatialCall (function : String) (arguments : Nat) : String :=
  "SELECT " ++ function ++ "(" ++ Text.joined ", " (List.replicate arguments "?") ++ ") AS \"" ++
    function ++ "_1\""

/-- What makes a system treat columns as points. -/
def registerPoints (d : Dialect) (t : Table) : List String :=
  match d with
  | .postgres => []
  | .sqlite =>
    t.points.map (fun _ => spatialCall "RecoverGeometryColumn" 5) ++
      t.points.map fun _ => spatialCall "CreateSpatialIndex" 2

/-- What has to be there before any table. -/
def preparation : Dialect → List String
  | .postgres => ["CREATE EXTENSION IF NOT EXISTS postgis", "COMMIT"]
  | .sqlite => []

/-- A table with all that belongs to it. -/
def setUp (d : Dialect) (t : Table) : List String :=
  createTable d t :: createIndexes d t ++ registerPoints d t

/-- The tables of the application. -/
def tables : List Table := [listings, openHouses]

/-- What is executed when the application starts, by `init_db`. -/
def startup (d : Dialect) : List String := preparation d ++ tables.flatMap (setUp d)

end Realty.Sql
