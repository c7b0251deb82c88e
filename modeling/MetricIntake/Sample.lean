import MetricIntake.Json.Bytes
import MetricIntake.Json.Writer
import MetricIntake.Validation.Lax

/-!
# Samples

A `Sample` is a metric's value as its source gave it, with the time of its last change.
`Sample.ofJson` accepts an object, `Sample.ofMembers` its members; `Sample.dump` is the text under
which a sample is kept, if `Sample.halves?` has nothing against it.
-/

namespace MetricIntake

/-- The latest value of a metric, all in text. -/
structure Sample where
  name : CodeText
  value : CodeText
  updatedAt : CodeText
deriving DecidableEq, Repr, Inhabited

namespace Sample

/-- The value of a sample whose source ran out of time. -/
def timeoutValue : CodeText := "Timeout"

/-- The source ran out of time. -/
def isTimedOut (s : Sample) : Bool := s.value = timeoutValue

/-- The time under either of its names, of which `updated_at` goes first. -/
def checkUpdatedAt (members : List (CodeText × Json)) : Checked CodeText :=
  match Json.lookup "updated_at" members with
  | some value => .field "updated_at" value.asText
  | none =>
    match Json.lookup "updatedAt" members with
    | some value => .field "updatedAt" value.asText
    | none => .fail ["updated_at"] .missing

/-- The members of an object as a sample; others are ignored. -/
def ofMembers (members : List (CodeText × Json)) : Checked Sample :=
  let name := requiredField members "name" Json.asText
  let value := requiredField members "value" Json.asText
  ((name.both value).both (checkUpdatedAt members)).map fun ((name, value), updatedAt) =>
    { name, value, updatedAt }

/-- A JSON value as a sample. -/
def ofJson : Json → Checked Sample
  | .object members => ofMembers members
  | _ => .fail [] .notObject

/-- The members of a sample in their order. -/
def toJson (s : Sample) : Json :=
  .object [("name", .text s.name), ("value", .text s.value), ("updated_at", .text s.updatedAt)]

/-- The characters of `dump`. -/
def dumpText (s : Sample) : List Char := s.toJson.render

/-- The compact JSON text of a sample. -/
def dump (s : Sample) : String := String.ofList s.dumpText

/-- The bytes of the JSON text of a sample. -/
def dumpBytes (s : Sample) : List UInt8 := Utf8.encode s.dumpText

/-- The first halves of characters in the parts of a sample, with which it cannot be kept. -/
def halves? (s : Sample) : Option CodeText.Halves :=
  [s.name, s.value, s.updatedAt].findSome? CodeText.halves?

end Sample

end MetricIntake
