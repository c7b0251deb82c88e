import MetricIntake.Json.Reader
import MetricIntake.Text.Quoted
import MetricIntake.Url
import MetricIntake.Validation.FieldError

/-!
# Failures

Two sorts of failure are told apart.  A `SourceError` is one that sources are expected to have and
that costs a request its result.  A `Fault` is unexpected and ends the work on its source.
-/

namespace MetricIntake

/-- The sorts of source errors. -/
inductive SourceError.Kind
  | unauthorized
  | transport
  | config
  | other
deriving DecidableEq, Repr

/-- An expected failure of a source. -/
structure SourceError where
  kind : SourceError.Kind
  /-- The id of the source. -/
  source : String
  message : String
deriving DecidableEq, Repr

/-- An unexpected failure. -/
inductive Fault
  | dateOutOfRange
  | nesting (c : Json.Container)
  | longWhole (digits : Nat)
  | unknownUrlType (url : String)
  | badUrl (e : UrlError)
  /-- A text with halves of characters was to be written. -/
  | unwritable (halves : CodeText.Halves)
  | invalid (errors : List FieldError)
  /-- An error of a kind that this library knows nothing about, with its own text. -/
  | foreign (kind : String) (message : String)
deriving DecidableEq, Repr

/-- What is said about halves of characters that were to be written. -/
def halvesMessage (halves : CodeText.Halves) : String :=
  let place := if halves.more = 0 then
      "character '" ++ String.ofList (Text.halfEscape (.half halves.first)) ++ "' in position " ++
        toString halves.position
    else
      "characters in position " ++ toString halves.position ++ "-" ++
        toString (halves.position + halves.more)
  "Error serializing to JSON: UnicodeEncodeError: 'utf-8' codec can't encode " ++ place ++
    ": surrogates not allowed"

/-- What is said about a fault. -/
def Fault.message : Fault → String
  | dateOutOfRange => "date value out of range"
  | nesting .array =>
    "maximum recursion depth exceeded while decoding a JSON array from a unicode string"
  | nesting .object =>
    "maximum recursion depth exceeded while decoding a JSON object from a unicode string"
  | longWhole digits => Numeral.longWholeMessage digits
  | unknownUrlType url => "unknown url type: " ++ Text.quote url
  | badUrl e => e.message
  | unwritable halves => halvesMessage halves
  | invalid errors => FieldError.texts errors
  | foreign _ message => message

/-- A failure of either sort. -/
inductive Failure
  | source (e : SourceError)
  | fault (f : Fault)
deriving DecidableEq, Repr

end MetricIntake
