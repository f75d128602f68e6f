/-
# Listing status

A user asks for listings by category.  Each category says whether its listings are archived and
which standard statuses it covers; the label of a category may be written in any case, singly, in
a list, or with commas.

* `Status.categories` is the recognised categories of a value in order, each once, and Active
  when none is recognised.
* `Status.condition` is the predicate that their listings meet.
-/
import Realty.Predicate.Basic
import Realty.Value.Coerce

namespace Realty.Status

/-- The standard statuses that a category may cover. -/
inductive Standard where
  | active
  | pending
  | activeUnderContract
  | closed
deriving DecidableEq, Repr

/-- The status as listings store it. -/
def Standard.text : Standard → String
  | .active => "Active"
  | .pending => "Pending"
  | .activeUnderContract => "Active Under Contract"
  | .closed => "Closed"

/-- What a user may ask for: a `StatusCategory`. -/
inductive Category where
  | active
  | pending
  | sold
deriving DecidableEq, Repr

namespace Category

/-- The display name of a category. -/
def name : Category → String
  | .active => "Active"
  | .pending => "Pending"
  | .sold => "Sold"

/-- Whether the listings of a category are archived. -/
def isArchived : Category → Bool
  | .sold => true
  | _ => false

/-- The statuses that a category covers. -/
def statuses : Category → List Standard
  | .active => [.active]
  | .pending => [.pending, .activeUnderContract]
  | .sold => [.closed]

/-- The condition on the status column alone. -/
def statusCondition (c : Category) : Predicate :=
  match c.statuses with
  | [s] => .equals "standard_status" (.str s.text)
  | ss => .inList "standard_status" (ss.map fun s => .str s.text)

/-- The condition that the listings of a category meet. -/
def condition (c : Category) : Predicate :=
  .allOf [.equals "is_archived" (.bool c.isArchived), c.statusCondition]

end Category

/-- The labels of the categories. -/
def labels : List (String × Category) :=
  [("active", .active), ("pending", .pending), ("under agreement", .pending), ("sold", .sold)]

/-- The category of a label. -/
def ofLabel? (label : String) : Option Category := labels.lookup label

/-- A label as it is looked up: without the blanks around it, in lower case. -/
def normalize (s : String) : String := String.ofList (Text.lower (Text.trim s.toList))

/-- The labels in a status value, as `_tokens` finds them.  Whatever is no list goes through its
text. -/
def askedLabels (v : Value) : List String :=
  match v with
  | .null => []
  | .list xs => (xs.filter fun x => !x.isNull).map fun x => normalize x.text
  | .tuple xs => (xs.filter fun x => !x.isNull).map fun x => normalize x.text
  | v => (Text.parts ',' v.text).map normalize

/-- The values whose texts the labels are in. -/
def listed (v : Value) : List Value :=
  match v with
  | .list _ | .tuple _ => v.givenItems
  | v => [v]

/-- The categories that a status value asks for: `StatusResolver.categories`. -/
def categories (v : Value) : List Category :=
  match distinct ((askedLabels v).filterMap ofLabel?) with
  | [] => [.active]
  | cs => cs

/-- The condition that the listings of the asked categories meet: `StatusResolver.resolve`. -/
def condition (v : Value) : Predicate :=
  match (categories v).map Category.condition with
  | [p] => p
  | ps => .anyOf ps

/-- Whether a status value reaches into archived listings: `includes_archived`. -/
def reachesArchived (v : Value) : Bool := (askedLabels v).contains "sold"

end Realty.Status
