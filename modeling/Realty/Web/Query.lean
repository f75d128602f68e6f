/-
# Query strings

* `Query.parse` reads the parameters of a query string: pairs between ampersands, a name and a
  value around the first equals sign, a plus for a blank, bytes of UTF-8 as percent escapes.  An
  escape that is none stands for itself; a parameter without an equals sign has an empty value.
* `Query.filters` gathers the parameters that are filters: a parameter that is given several
  times becomes a list, and the parameters of paging are left out.
-/
import Realty.Filter.Compile
import Realty.Text.Replace
import Realty.Text.Utf8

namespace Realty.Web.Query

/-! ## 1. Escapes -/

/-- The text of a name or value without its escapes; the bytes read last, in reverse, may start a
character.  A literal character beyond ASCII ends them. -/
def unescapeFrom (bytes : List Nat) : List Char → List Char
  | [] => Text.Utf8.decode bytes.reverse
  | '%' :: a :: b :: r =>
    match Text.hexValue? a, Text.hexValue? b with
    | some x, some y => unescapeFrom ((16 * x + y) :: bytes) r
    | _, _ => unescapeFrom (37 :: bytes) (a :: b :: r)
  | c :: r =>
    if c.toNat < 128 then unescapeFrom (c.toNat :: bytes) r
    else Text.Utf8.decode bytes.reverse ++ c :: unescapeFrom [] r

/-- The text of a name or value without its escapes. -/
def unescape (s : List Char) : String :=
  String.ofList (unescapeFrom [] (s.map fun c => if c = '+' then ' ' else c))

/-! ## 2. Parameters -/

/-- The name and value of a parameter. -/
def parameter (s : List Char) : String × String :=
  match Text.partition '=' s with
  | some (name, value) => (unescape name, unescape value)
  | none => (unescape s, "")

/-- The parameters of a query string, in order. -/
def parse (query : String) : List (String × String) :=
  ((Text.splitOn '&' query.toList).filter fun s => !s.isEmpty).map parameter

/-- The values that are given for a name. -/
def values (params : List (String × String)) (name : String) : List String :=
  (params.filter fun p => p.1 == name).map (·.2)

/-- The last value that is given for a name. -/
def last? (params : List (String × String)) (name : String) : Option String :=
  (values params name).getLast?

/-! ## 3. Filters -/

/-- The parameters that control paging. -/
def pagingNames : List String := ["page", "per_page"]

/-- One value as it is, several as a list. -/
def gather : List String → Value
  | [s] => .str s
  | ss => .list (ss.map .str)

/-- The filters among the parameters, in the order in which their names first occur:
`filters_from_query`. -/
def filters (params : List (String × String)) : Filters :=
  ((distinct (params.map (·.1))).filter fun name => !pagingNames.contains name).map fun name =>
    (name, gather (values params name))

end Realty.Web.Query
