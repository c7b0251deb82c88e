import MetricIntake.Validation.Lax

/-!
# Requests

A `Request` asks for the latest sample of a metric of a source.  `Request.ofJson` accepts an object;
`Request.cacheKey` is the key under which the request's sample is kept.  Sources and names are
strings: requests whose source or name has halves of characters, of which neither an address nor the
key of a store can be made, are beyond what is described here.
-/

namespace MetricIntake

/-- A request for one sample, of a source and a metric that are named in whole characters. -/
structure Request where
  source : String
  name : String
  /-- The value to go on with where the source has none. -/
  defaultValue : Option Double
  /-- For how many milliseconds the sample may be kept, `0` for not at all. -/
  cacheMillis : Nat
deriving DecidableEq, Inhabited

namespace Request

/-- The source and the name. -/
def cacheKey (r : Request) : String := r.source ++ ":" ++ r.name

/-- A number of milliseconds. -/
def asMillis (value : Json) : Except FieldError.Kind Nat :=
  match value.asWhole with
  | .ok n => if n < 0 then .error .tooSmall else .ok n.toNat
  | .error kind => .error kind

/-- A JSON value as a request; unknown members are ignored.  The source and the name are taken to
have whole characters, as in `Json.asString`. -/
def ofJson : Json → Checked Request
  | .object members =>
    let source := requiredField members "source" Json.asString
    let name := requiredField members "name" Json.asString
    let defaultValue := optionalField members "default_value" none (nullable Json.asDouble)
    let cacheMillis := optionalField members "cache_millis" 0 asMillis
    (((source.both name).both defaultValue).both cacheMillis).map
      fun (((source, name), defaultValue), cacheMillis) =>
        { source, name, defaultValue, cacheMillis }
  | _ => .fail [] .notObject

/-- A list of values as requests, or the errors of the first one that is none. -/
def ofJsons : List Json → Checked (List Request)
  | [] => .ok []
  | value :: values =>
    match ofJson value with
    | .ok r => (ofJsons values).map (r :: ·)
    | .error errors => .error errors

end Request

end MetricIntake
