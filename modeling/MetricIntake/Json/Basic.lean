import MetricIntake.Double.Basic
import MetricIntake.Named
import MetricIntake.Text.CodePoint

/-!
# JSON values

`Json` keeps whole numbers and doubles apart, and the members of an object in the order in which
their names first appear.  Texts and names may hold halves of characters.  `Json.lookup` finds a
member, and `Json.isEmptyValue` says which values count as nothing.
-/

namespace MetricIntake

/-- A JSON value. -/
inductive Json
  | null
  | bool (b : Bool)
  | whole (n : Int)
  | double (x : Double)
  | text (s : CodeText)
  | array (items : List Json)
  | object (members : List (CodeText × Json))
deriving Inhabited

namespace Json

/-- The value of a member. -/
def lookup (name : String) (members : List (CodeText × Json)) : Option Json :=
  Named.lookup (CodeText.ofString name) members

/-- A member of an object. -/
def member? (name : String) : Json → Option Json
  | object members => lookup name members
  | _ => none

/-- The values that count as nothing: null, false, the zeros, and empty text, arrays and objects. -/
def isEmptyValue : Json → Bool
  | null => true
  | bool b => !b
  | whole n => n = 0
  | double (.finite _ m) => m.units = 0
  | double _ => false
  | text s => s.isEmpty
  | array items => items.isEmpty
  | object members => members.isEmpty

end Json

end MetricIntake
