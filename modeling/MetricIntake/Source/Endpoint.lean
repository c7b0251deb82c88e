import MetricIntake.Json.Writer
import MetricIntake.Source.Basic
import MetricIntake.Text.Blank
import MetricIntake.Text.Percent

/-!
# HTTP sources

A source behind an HTTP service: `Source.endpoint`.  `Endpoint.sampleUrl` is where a sample is
requested, `Endpoint.readBody` what the body of an answer comes to, and `Endpoint.answer` what an
answer comes to.
-/

namespace MetricIntake

/-- How an HTTP service answers. -/
inductive HttpOutcome
  /-- With a status that is an error. -/
  | status (code : Int)
  /-- Not at all, in one of the ways in which networks fail. -/
  | unreachable (message : String)
  /-- Not at all, in another way. -/
  | broken (f : Fault)
  /-- With a body. -/
  | body (bytes : List UInt8)
deriving DecidableEq

/-- What comes of a request over HTTP. -/
structure HttpReply where
  outcome : HttpOutcome
  took : Double
  stops : Bool
deriving DecidableEq

/-- How requests over HTTP are answered, and how deep values may lie in the body of an answer. -/
structure Network (ω : Type) where
  send : HttpRequest → ω → HttpReply × ω
  depth : Json.Depth

/-- An HTTP service and how it is accessed. -/
structure Endpoint where
  /-- The id of the source. -/
  id : String
  /-- The address without slashes at its end. -/
  baseUrl : String
  token : String
  timeout : Double
deriving DecidableEq

namespace Endpoint

/-- The part of an address between the base and the name. -/
def samplesPath : String := "/v1/samples/"

/-- A text without slashes at its end. -/
def dropSlashes (cs : List Char) : List Char :=
  (cs.reverse.dropWhile (· = '/')).reverse

/-- The service at an address. -/
def make (id baseUrl token : String) (timeout : Double) : Endpoint :=
  { id, baseUrl := String.ofList (dropSlashes baseUrl.toList), token, timeout }

/-- The address of a sample. -/
def sampleUrl (e : Endpoint) (name : String) : String :=
  e.baseUrl ++ samplesPath ++ String.ofList (Percent.encode name.toList)

/-- An address as it is requested: without blank characters around it and without `URL:` before
it. -/
def requestedUrl (url : String) : String :=
  let body := Text.trim url.toList
  let marker := "URL:".toList
  String.ofList (if marker.isPrefixOf body then Text.trim (body.drop marker.length) else body)

/-- An address without its last number sign and all behind it. -/
def dropFragment (cs : List Char) : List Char :=
  match cs.reverse.span (· ≠ '#') with
  | (_, _ :: front) => front.reverse
  | (_, []) => cs

/-- An address starts with the name of a scheme and a colon. -/
def hasScheme (url : String) : Bool :=
  let stop (c : Char) : Bool := c = '/' || c = ':'
  match (dropFragment url.toList).span (!stop ·) with
  | (_ :: _, ':' :: _) => true
  | _ => false

/-- Why a service gives no sample although it should. -/
inductive Trouble
  | refused (code : Int)
  | badStatus (code : Int)
  | unreachable (message : String)
  | badText (e : Utf8.DecodeError)
  | badJson (p : Json.Problem) (place : Json.Place)
  | unexpected
  | malformed (errors : List FieldError)
deriving DecidableEq

/-- What is said about bytes that are no text. -/
def decodeMessage (e : Utf8.DecodeError) : String :=
  let place := match e.bytes with
    | [b] => "byte 0x" ++ String.ofList (Text.hexPadded 2 b.toNat) ++ " in position " ++
        toString e.position
    | bytes => "bytes in position " ++ toString e.position ++ "-" ++
        toString (e.position + bytes.length - 1)
  "'utf-8' codec can't decode " ++ place ++ ": " ++ e.cause.message

/-- What is said about a trouble with the sample `name`. -/
def Trouble.message (name : String) : Trouble → String
  | refused code => "HTTP " ++ toString code ++ " for sample " ++ name
  | badStatus code => "HTTP " ++ toString code ++ " for sample " ++ name
  | unreachable message => "could not load sample " ++ name ++ ": " ++ message
  | badText e => "could not load sample " ++ name ++ ": " ++ decodeMessage e
  | badJson p place => "could not load sample " ++ name ++ ": " ++ Json.problemMessage p place
  | unexpected => "unexpected payload for sample " ++ name
  | malformed errors => "malformed sample " ++ name ++ ": " ++ FieldError.texts errors

/-- A trouble as an error of the source. -/
def Trouble.toSourceError (e : Endpoint) (name : String) (t : Trouble) : SourceError :=
  { kind := match t with
      | refused _ => .unauthorized
      | _ => .transport
    source := e.id
    message := t.message name }

/-- A value, or another in the place of null and everything else that counts as nothing. -/
def orElse (value? : Option Json) (other : String) : Json :=
  match value? with
  | some value => if value.isEmptyValue then .text other else value
  | none => .text other

/-- The members of an answer as a sample.  A name or a time that counts as nothing is replaced, and
a value that is no text is written as one. -/
def readMembers (name : String) (members : List (CodeText × Json)) : Checked Sample :=
  let value : CodeText := match Json.lookup "value" members with
    | none | some .null => []
    | some value => value.showOuter
  Sample.ofMembers
    [("name", orElse (Json.lookup "name" members) name), ("value", .text value),
      ("updated_at", orElse (Json.lookup "updatedAt" members) "")]

/-- What the value of an answer comes to: nothing, a sample, or a trouble. -/
def readValue (name : String) (value : Json) : Except Trouble (Option Sample) :=
  if value.isEmptyValue then .ok none
  else
    match value with
    | .object members =>
      match readMembers name members with
      | .ok sample => .ok (some sample)
      | .error errors => .error (.malformed errors)
    | _ => .error .unexpected

/-- What the body of an answer comes to.  Too deep a value or too long a number is a fault. -/
def readBody (depth : Json.Depth) (name : String) (bytes : List UInt8) :
    Except Fault (Except Trouble (Option Sample)) :=
  match Utf8.decode bytes with
  | .error e => .ok (.error (.badText e))
  | .ok text =>
    match Json.readUnmarked depth (.ofChars text) with
    | .error (.problem p place) => .ok (.error (.badJson p place))
    | .error (.nesting c) => .error (.nesting c)
    | .error (.longWhole digits) => .error (.longWhole digits)
    | .ok value => .ok (readValue name value)

/-- What an answer comes to. -/
def answer (depth : Json.Depth) (name : String) :
    HttpOutcome → Except Fault (Except Trouble (Option Sample))
  | .status code =>
    if code = 401 ∨ code = 403 then .ok (.error (.refused code))
    else if code = 404 then .ok (.ok none)
    else .ok (.error (.badStatus code))
  | .unreachable message => .ok (.error (.unreachable message))
  | .broken f => .error f
  | .body bytes => readBody depth name bytes

/-- What an answer comes to, for those who ask the source. -/
def outcome (e : Endpoint) (depth : Json.Depth) (name : String) (o : HttpOutcome) :
    Except Failure (Option Sample) :=
  match answer depth name o with
  | .ok (.ok sample?) => .ok sample?
  | .ok (.error t) => .error (.source (t.toSourceError e name))
  | .error f => .error (.fault f)

/-- The request for a sample. -/
def request (e : Endpoint) (name : String) : HttpRequest :=
  { url := requestedUrl (e.sampleUrl name)
    headers := [("Accept", "application/json"), ("Authorization", e.token)]
    timeout := e.timeout }

/-- The record of a request. -/
def loadingRecord (e : Endpoint) (name : String) : LogRecord :=
  ⟨.debug, .endpoint, "Loading sample " ++ name ++ " from " ++ e.id⟩

/-- What is wrong with an address, so that nothing can be requested there. -/
def addressFault? (url : String) : Option Fault :=
  if !hasScheme url then some (.unknownUrlType url)
  else
    match Url.read url.toList with
    | .error e => some (.badUrl e)
    | .ok _ => none

/-- The service's answer for a metric.  With a wrong address nothing is requested. -/
def ask {ω : Type} (network : Network ω) (e : Endpoint) (name : String) (outside : ω) : Reply × ω :=
  let request := e.request name
  let records := [e.loadingRecord name]
  match addressFault? request.url with
  | some f => ({ Reply.plain (.error (.fault f)) with records }, outside)
  | none =>
    let (reply, outside) := network.send request outside
    ({ records, requests := [request], took := reply.took, stops := reply.stops,
       outcome := e.outcome network.depth name reply.outcome }, outside)

end Endpoint

/-- The source behind an HTTP service. -/
def Source.endpoint {ω : Type} (network : Network ω) (e : Endpoint) : Source ω :=
  { id := e.id
    profile := .endpoint e.baseUrl e.token e.timeout
    ask := fun name _ outside => e.ask network name outside }

end MetricIntake
