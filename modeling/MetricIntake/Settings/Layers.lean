import MetricIntake.Fault
import MetricIntake.Settings.Basic
import MetricIntake.Settings.Dotenv
import MetricIntake.Text.Case

/-!
# Layers of settings

Settings come from arguments, the environment and two files, the earlier before the later.  A
`Layer` is a set of variables; `Layer.members` are the settings that it makes, where parts of a name
stand for members of the sources, and `Json.merge` puts one layer over another.  `Settings.load` is
the whole.
-/

namespace MetricIntake

namespace Json

mutual

/-- The members of an object under those of another, which go first wherever both have a value that
is no object. -/
def merge (lower : List (CodeText × Json)) : List (CodeText × Json) → List (CodeText × Json)
  | [] => lower
  | (name, value) :: upper =>
    merge (Named.put name (mergeValue (Named.lookup name lower) value) lower) upper

/-- A value over the one that there is, if there is any. -/
def mergeValue (lower? : Option Json) : Json → Json
  | .object new =>
    match lower? with
    | some (.object old) => .object (merge old new)
    | _ => .object new
  | value => value

end

/-- A value at the end of a path of names.  A value in the way that is no object stays, and then
nothing changes. -/
def putAt : List CodeText → Json → List (CodeText × Json) → List (CodeText × Json)
  | [], _, members => members
  | [name], value, members => Named.put name value members
  | name :: path, value, members =>
    match Named.lookup name members with
    | none => Named.put name (.object (putAt path value [])) members
    | some (.object inner) => Named.put name (.object (putAt path value inner)) members
    | some _ => members

end Json

/-- The sorts of variables that settings are read from. -/
inductive Layer
  | environment
  | files
deriving DecidableEq, Repr

/-- The word for a layer. -/
def Layer.word : Layer → String
  | environment => "EnvSettingsSource"
  | files => "DotEnvSettingsSource"

/-- Why there are no settings. -/
inductive SettingsFailure
  | invalid (errors : List FieldError)
  /-- The variables for the sources are no JSON. -/
  | unreadableSources (layer : Layer)
  /-- A variable for the sources has values inside too many others. -/
  | nesting (c : Json.Container)
deriving DecidableEq, Repr

/-- What is said where there are no settings. -/
def SettingsFailure.message : SettingsFailure → String
  | invalid errors => FieldError.texts errors
  | unreadableSources layer =>
    "error parsing value for field \"sources\" from source \"" ++ layer.word ++ "\""
  | nesting c => (Fault.nesting c).message

namespace Layer

/-- The first part of every variable's name. -/
def variableLead : String := "sampleduct_"

/-- The setting under which a variable's value is found, and the names of its variables. -/
def textFields : List (String × List String) :=
  [("REDIS_URL", ["redis_url", variableLead ++ "redis_url"]),
    ("EXTRACT_QUEUE_NAME", ["extract_queue_name", variableLead ++ "extract_queue_name"]),
    ("extract_job_timeout_seconds", [variableLead ++ "extract_job_timeout_seconds"]),
    ("extract_result_ttl_seconds", [variableLead ++ "extract_result_ttl_seconds"]),
    ("cache_key_prefix", [variableLead ++ "cache_key_prefix"]),
    ("meter_name", [variableLead ++ "meter_name"]),
    ("log_level", [variableLead ++ "log_level"])]

/-- The variable of all sources. -/
def sourcesVariable : String := variableLead ++ "sources"

/-- What a part of a variable's name leads to. -/
inductive Spot
  | sources
  | source
  | samples
  | text
  | unknown
deriving DecidableEq, Repr

/-- A spot as a member of a source, also by its name behind the first part of every variable's
name. -/
def Spot.ofSourceMember (name : String) : Option Spot :=
  let isName (member : String) : Bool := name = member || name = variableLead ++ member
  if isName "samples" then some .samples
  else if ["kind", "base_url", "token", "timeout_seconds"].any isName then some .text
  else none

/-- The spot that a part of a name leads to. -/
def Spot.next (name : String) : Spot → Spot
  | sources => .source
  | source => (ofSourceMember name).getD .unknown
  | samples => .text
  | text => .unknown
  | unknown => .unknown

/-- The JSON value of a text. -/
def readJson (depth : Json.Depth) (layer : Layer) (written : String) :
    Except SettingsFailure Json :=
  match Json.readUnmarked depth written with
  | .ok value => .ok value
  | .error (.nesting c) => .error (.nesting c)
  | .error _ => .error (.unreadableSources layer)

/-- The value at a spot of a variable, which is null for a variable without a value.  JSON is read
wherever it could be meant, and must be JSON for the samples of a source. -/
def Spot.value (depth : Json.Depth) (layer : Layer) (spot : Spot) :
    Option String → Except SettingsFailure Json
  | none => .ok .null
  | some written =>
    if written.isEmpty || spot = .text then .ok (.text written)
    else
      match readJson depth layer written with
      | .error (.unreadableSources layer) =>
        if spot = .samples then .error (.unreadableSources layer) else .ok (.text written)
      | found => found

/-- The parts of a name between double underscores. -/
def nameParts (name : String) : List String := name.splitOn "__"

/-- The sources that variables with longer names make, added to those so far. -/
def explode (depth : Json.Depth) (layer : Layer) :
    List (String × Option String) → List (CodeText × Json) →
      Except SettingsFailure (List (CodeText × Json))
  | [], members => .ok members
  | (name, value?) :: rest, members =>
    let lead := sourcesVariable ++ "__"
    if name.startsWith lead then do
      let path := nameParts (String.ofList (name.toList.drop lead.length))
      let spot := path.foldl (fun spot part => Spot.next part spot) Spot.sources
      let json ← spot.value depth layer value?
      explode depth layer rest (Json.putAt (path.map .ofString) json members)
    else explode depth layer rest members

/-- The value of the first of some variables that has one. -/
def firstValue? (vars : List (String × Option String)) (names : List String) :
    Option String :=
  names.findSome? fun name => (Named.lookup name vars).join

/-- The sources that variables make, if there are any. -/
def sources (depth : Json.Depth) (layer : Layer) (vars : List (String × Option String)) :
    Except SettingsFailure (Option Json) :=
  match firstValue? vars [sourcesVariable] with
  | none => do
    let members ← explode depth layer vars []
    return if members.isEmpty then none else some (.object members)
  | some text => do
    match ← readJson depth layer text with
    | .null => return none
    | .object members =>
      let more ← explode depth layer vars []
      return some (.object (Json.merge members more))
    | value => return some value

/-- The settings that variables make. -/
def members (depth : Json.Depth) (layer : Layer) (vars : List (String × Option String)) :
    Except SettingsFailure (List (CodeText × Json)) := do
  let texts : List (CodeText × Json) := textFields.filterMap fun (field, names) =>
    (firstValue? vars names).map fun value => (.ofString field, .text value)
  let sources? ← sources depth layer vars
  return texts ++ (sources?.map fun value => (.ofString "sources", value)).toList

/-- The variables with their names in lower case; of several with one name the last counts. -/
def lowerNames (vars : List (String × Option String)) : List (String × Option String) :=
  vars.foldl (fun found (name, value?) => Named.put (Text.lowerCase name) value? found) []

end Layer

/-- The texts and variables from which settings are read, and how deep values may lie in them. -/
structure SettingsInput where
  /-- Settings given directly, under one of their names. -/
  arguments : List (String × Json)
  environment : List (String × String)
  /-- The file of the present directory. -/
  file : Option String
  /-- The file of the directory above. -/
  parentFile : Option String
  depth : Json.Depth

namespace Settings

/-- The argument for a setting: by the first of its names that is given, in any case of letters. -/
def argument? (arguments : List (String × Json)) (names : List String) : Option Json :=
  names.findSome? fun name =>
    (arguments.find? fun (given, _) => Text.lowerCase given = Text.lowerCase name).map (·.2)

/-- Arguments under the first names of their settings. -/
def nameArguments (arguments : List (String × Json)) : List (CodeText × Json) :=
  fieldNames.filterMap fun names =>
    (argument? arguments names).map fun value => (.ofString (names.headD ""), value)

/-- The name under which a setting is found in the end: the first of its names that was given just
so, or else its first name. -/
def finalName (arguments : List (String × Json)) (field : CodeText) : CodeText :=
  match fieldNames.find? fun names => names.head?.any fun name => field = name with
  | some names =>
    ((names.find? fun name => (Named.lookup name arguments).isSome).map .ofString).getD field
  | none => field

/-- The variables of both files, the nearer one first. -/
def fileVariables (input : SettingsInput) : List (String × Option String) :=
  let read (file : Option String) : List (String × Option String) :=
    Layer.lowerNames ((file.map (Dotenv.table input.environment)).getD [])
  (read input.file).foldl (fun found (name, value?) => Named.put name value? found)
    (read input.parentFile)

/-- The settings from all layers: arguments, environment, files. -/
def load (input : SettingsInput) : Except SettingsFailure Settings := do
  let environment :=
    Layer.lowerNames (input.environment.map fun (name, value) => (name, some value))
  let fromEnvironment ← Layer.environment.members input.depth environment
  let fromFiles ← Layer.files.members input.depth (fileVariables input)
  let members :=
    Json.merge fromFiles (Json.merge fromEnvironment (nameArguments input.arguments))
  let members := members.map fun (name, value) => (finalName input.arguments name, value)
  (ofMembers members).mapError .invalid

/-- The settings from arguments alone. -/
def ofArguments (depth : Json.Depth) (arguments : List (String × Json)) :
    Except SettingsFailure Settings :=
  load { arguments, environment := [], file := none, parentFile := none, depth }

end Settings

end MetricIntake
