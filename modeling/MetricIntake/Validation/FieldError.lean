/-!
# Field errors

What is wrong with one field of an input object: `FieldError` is the path to the field and the kind
of the error.  `Checked` is a value or all errors of its fields, and `Checked.both` keeps the errors
of both of its arguments.
-/

namespace MetricIntake

/-- The kinds of errors. -/
inductive FieldError.Kind
  | missing
  | notObject
  | notText
  | brokenText
  | notMapping
  | notDouble
  | unreadableDouble
  | notWhole
  | unreadableWhole
  | oversizedWhole
  | fractional
  | notFinite
  | tooSmall
  | unknownWord
deriving DecidableEq, Repr

/-- The code of a kind. -/
def FieldError.Kind.code : FieldError.Kind → String
  | missing => "missing"
  | notObject => "model_type"
  | notText => "string_type"
  | brokenText => "string_unicode"
  | notMapping => "dict_type"
  | notDouble => "float_type"
  | unreadableDouble => "float_parsing"
  | notWhole => "int_type"
  | unreadableWhole => "int_parsing"
  | oversizedWhole => "int_parsing_size"
  | fractional => "int_from_float"
  | notFinite => "finite_number"
  | tooSmall => "greater_than_equal"
  | unknownWord => "literal_error"

/-- An error and the field that has it. -/
structure FieldError where
  /-- The names that lead to the field. -/
  path : List String
  kind : FieldError.Kind
deriving DecidableEq, Repr

namespace FieldError

/-- The path with points and the code. -/
def text (e : FieldError) : String :=
  ".".intercalate e.path ++ " " ++ e.kind.code

/-- The texts of several errors. -/
def texts (errors : List FieldError) : String :=
  "; ".intercalate (errors.map text)

/-- The same error seen from an outer object. -/
def under (name : String) (e : FieldError) : FieldError :=
  { e with path := name :: e.path }

end FieldError

/-- A value, or the errors of its fields in the order of the fields. -/
abbrev Checked (α : Type) := Except (List FieldError) α

namespace Checked

variable {α β : Type}

/-- The errors, none for a value. -/
def errors : Checked α → List FieldError
  | .ok _ => []
  | .error es => es

/-- Two values, or the errors of both in this order. -/
def both (a : Checked α) (b : Checked β) : Checked (α × β) :=
  match a, b with
  | .ok x, .ok y => .ok (x, y)
  | a, b => .error (a.errors ++ b.errors)

/-- One error at a field. -/
def fail (path : List String) (kind : FieldError.Kind) : Checked α :=
  .error [⟨path, kind⟩]

/-- A value that may have one error, as the field `name`. -/
def field (name : String) (value : Except FieldError.Kind α) : Checked α :=
  value.mapError fun kind => [⟨[name], kind⟩]

/-- A value as part of an outer object, where it has the name `name`. -/
def under (name : String) (value : Checked α) : Checked α :=
  value.mapError (List.map (FieldError.under name))

end Checked

end MetricIntake
