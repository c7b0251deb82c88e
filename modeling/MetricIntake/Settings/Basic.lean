import MetricIntake.Source.Endpoint
import MetricIntake.Source.Fixed
import MetricIntake.Validation.Lax

/-!
# Settings

What a worker is told: `Settings`, with a `SourceSettings` for each source.  `SourceSettings.ofJson`
and `Settings.ofMembers` accept JSON objects, and `Settings.buildSource` is the source of an id.
-/

namespace MetricIntake

/-- The sorts of sources that settings can declare. -/
inductive SourceKind
  | endpoint
  | fixed
deriving DecidableEq, Repr

/-- The word for a sort. -/
def SourceKind.word : SourceKind → String
  | endpoint => "refocus"
  | fixed => "static"

/-- What is set for one source. -/
structure SourceSettings where
  kind : SourceKind
  baseUrl : Option String
  token : Option String
  timeoutSeconds : Double
  /-- The values of a fixed source. -/
  samples : List (String × String)
deriving DecidableEq

namespace SourceSettings

/-- A value as a sort of source. -/
def asKind : Json → Except FieldError.Kind SourceKind
  | .text s =>
    if s = SourceKind.endpoint.word then .ok .endpoint
    else if s = SourceKind.fixed.word then .ok .fixed
    else if s.halves?.isSome then .error .brokenText
    else .error .unknownWord
  | _ => .error .unknownWord

/-- The members of an object, each of which must be a text. -/
def checkTexts : List (CodeText × Json) → Checked (List (String × String))
  | [] => .ok []
  | (name, value) :: members =>
    ((Checked.field name.plain value.asString).both (checkTexts members)).map fun (text, rest) =>
      (name.plain, text) :: rest

/-- The values of a fixed source. -/
def checkSamples : Option Json → Checked (List (String × String))
  | none => .ok []
  | some (.object members) =>
    (checkTexts members).under "samples"
  | some _ => .fail ["samples"] .notMapping

/-- A JSON value as the settings of a source; unknown members are ignored. -/
def ofJson : Json → Checked SourceSettings
  | .object members =>
    let kind := optionalField members "kind" .endpoint asKind
    let baseUrl := optionalField members "base_url" none (nullable Json.asString)
    let token := optionalField members "token" none (nullable Json.asString)
    let timeoutSeconds := optionalField members "timeout_seconds" (.ofWhole 10) Json.asDouble
    let samples := checkSamples (Json.lookup "samples" members)
    ((((kind.both baseUrl).both token).both timeoutSeconds).both samples).map
      fun ((((kind, baseUrl), token), timeoutSeconds), samples) =>
        { kind, baseUrl, token, timeoutSeconds, samples }
  | _ => .fail [] .notObject

/-- The source that the settings of an id declare. -/
def build {ω : Type} (network : Network ω) (id : String) (s : SourceSettings) :
    Except SourceError (Source ω) :=
  let lacking (message : String) : Except SourceError (Source ω) := .error ⟨.config, id, message⟩
  match s.kind with
  | .fixed => .ok (.fixed id s.samples)
  | .endpoint =>
    match s.baseUrl.filter (!·.isEmpty), s.token.filter (!·.isEmpty) with
    | none, _ => lacking "missing base_url"
    | _, none => lacking "missing token"
    | some baseUrl, some token => .ok (.endpoint network (.make id baseUrl token s.timeoutSeconds))

end SourceSettings

/-- What a worker is told. -/
structure Settings where
  /-- Where the store and the queue are. -/
  storeUrl : String
  queueName : String
  jobTimeoutSeconds : Int
  resultTtlSeconds : Int
  cacheKeyPrefix : String
  meterName : String
  logLevel : String
  sources : List (String × SourceSettings)
deriving DecidableEq

namespace Settings

/-- Every source of an object. -/
def checkSourceMembers : List (CodeText × Json) → Checked (List (String × SourceSettings))
  | [] => .ok []
  | (id, value) :: members =>
    (((SourceSettings.ofJson value).under id.plain).both (checkSourceMembers members)).map
      fun (source, rest) => (id.plain, source) :: rest

/-- The sources. -/
def checkSources : Option Json → Checked (List (String × SourceSettings))
  | none => .ok []
  | some (.object members) =>
    (checkSourceMembers members).under "sources"
  | some _ => .fail ["sources"] .notMapping

/-- The names of the address of the store. -/
def storeUrlNames : List String := ["REDIS_URL", "SAMPLEDUCT_REDIS_URL"]

/-- The names of the name of the queue. -/
def queueNameNames : List String := ["EXTRACT_QUEUE_NAME", "SAMPLEDUCT_EXTRACT_QUEUE_NAME"]

/-- The names of every setting, the first of which stands for all of them. -/
def fieldNames : List (List String) :=
  [storeUrlNames, queueNameNames, ["extract_job_timeout_seconds"],
    ["extract_result_ttl_seconds"], ["cache_key_prefix"], ["meter_name"], ["log_level"],
    ["sources"]]

/-- The members of an object as settings; unknown members are ignored. -/
def ofMembers (members : List (CodeText × Json)) : Checked Settings :=
  let text (name absent : String) := optionalField members name absent Json.asString
  let storeUrl := namedField members storeUrlNames "redis://localhost:6379/0" Json.asString
  let queueName := namedField members queueNameNames "extract" Json.asString
  let jobTimeout := optionalField members "extract_job_timeout_seconds" 300 Json.asWhole
  let resultTtl := optionalField members "extract_result_ttl_seconds" 3600 Json.asWhole
  let cacheKeyPrefix := text "cache_key_prefix" "sampleduct"
  let meterName := text "meter_name" "Refocus"
  let logLevel := text "log_level" "INFO"
  let sources := checkSources (Json.lookup "sources" members)
  (((((((storeUrl.both queueName).both jobTimeout).both resultTtl).both cacheKeyPrefix).both
      meterName).both logLevel).both sources).map
    fun (((((((storeUrl, queueName), jobTimeoutSeconds), resultTtlSeconds), cacheKeyPrefix),
        meterName), logLevel), sources) =>
      { storeUrl, queueName, jobTimeoutSeconds, resultTtlSeconds, cacheKeyPrefix, meterName,
        logLevel, sources }

/-- The source of an id. -/
def buildSource {ω : Type} (network : Network ω) (s : Settings) (id : String) :
    Except SourceError (Source ω) :=
  match Named.lookup id s.sources with
  | some source => source.build network id
  | none => .error ⟨.config, id, "unknown source"⟩

end Settings

end MetricIntake
