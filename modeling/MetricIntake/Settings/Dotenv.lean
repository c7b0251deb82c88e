import MetricIntake.Named
import MetricIntake.Text.Blank

/-!
# Files of variables

The text of a `.env` file: lines of a name, an equals sign and a value.  `Dotenv.scanBinding` reads
one binding, `Dotenv.bindings` a whole file, skipping lines that are none, and `Dotenv.table` puts
in the values of variables that other values mention.
-/

namespace MetricIntake.Dotenv

/-- A name and its value, if an equals sign follows the name. -/
abbrev Binding := List Char × Option (List Char)

/-- A blank character within a line. -/
def isInlineBlank (c : Char) : Bool := Text.isBlank c && c ≠ '\n' && c ≠ '\r'

/-- The text behind the blank characters of its first line. -/
def skipInline (cs : List Char) : List Char := cs.dropWhile isInlineBlank

/-- Every kind of line end as a line feed. -/
def unifyLines : List Char → List Char
  | '\r' :: '\n' :: cs => '\n' :: unifyLines cs
  | '\r' :: cs => '\n' :: unifyLines cs
  | c :: cs => c :: unifyLines cs
  | [] => []

/-- The text behind the word `export`, if a blank character follows it. -/
def skipExport (cs : List Char) : List Char :=
  let word := "export".toList
  let behind := cs.drop word.length
  if word.isPrefixOf cs && behind.head?.any isInlineBlank then skipInline behind else cs

/-- The name of a variable, in single quotes or without; a comment has none. -/
def scanKey (cs : List Char) : Except (List Char) (Option (List Char) × List Char) :=
  match cs with
  | '#' :: _ => .ok (none, cs)
  | '\'' :: behind =>
    match behind.span (· ≠ '\'') with
    | (c :: name, '\'' :: rest) => .ok (some (c :: name), rest)
    | _ => .error cs
  | _ =>
    let inKey (c : Char) : Bool := c ≠ '=' && c ≠ '#' && !Text.isBlank c
    match cs.span inKey with
    | ([], _) => .error cs
    | (name, rest) => .ok (some name, rest)

/-- The characters up to the closing quote.  A backslash takes the character behind it along. -/
def scanQuoted (mark : Char) : List Char → Option (List Char × List Char)
  | [] => none
  | '\\' :: c :: cs => (scanQuoted mark cs).map fun (value, rest) => ('\\' :: c :: value, rest)
  | c :: cs =>
    if c = mark then some ([], cs)
    else (scanQuoted mark cs).map fun (value, rest) => (c :: value, rest)

/-- The escapes of a value in single quotes. -/
def singleEscape? (c : Char) : Option Char :=
  if c = '\\' ∨ c = '\'' then some c else none

/-- The escapes of a value in double quotes. -/
def doubleEscape? (c : Char) : Option Char :=
  if c = '\\' ∨ c = '\'' ∨ c = '"' then some c
  else if c = 'a' then some '\x07'
  else if c = 'b' then some '\x08'
  else if c = 'f' then some '\x0c'
  else if c = 'n' then some '\n'
  else if c = 'r' then some '\r'
  else if c = 't' then some '\t'
  else if c = 'v' then some '\x0b'
  else none

/-- A text with its escapes replaced; other backslashes stay. -/
def unescape (escape? : Char → Option Char) : List Char → List Char
  | '\\' :: c :: cs =>
    match escape? c with
    | some x => x :: unescape escape? cs
    | none => '\\' :: unescape escape? (c :: cs)
  | c :: cs => c :: unescape escape? cs
  | [] => []
termination_by cs => cs.length

/-- A text up to a number sign behind a blank character. -/
def dropComment : Bool → List Char → List Char
  | _, [] => []
  | blank, c :: cs => if blank ∧ c = '#' then [] else c :: dropComment (Text.isBlank c) cs

/-- The value behind an equals sign. -/
def scanEnvValue (cs : List Char) : Except (List Char) (List Char × List Char) :=
  match skipInline cs with
  | [] => .ok ([], [])
  | '\'' :: behind =>
    match scanQuoted '\'' behind with
    | some (value, rest) => .ok (unescape singleEscape? value, rest)
    | none => .error ('\'' :: behind)
  | '"' :: behind =>
    match scanQuoted '"' behind with
    | some (value, rest) => .ok (unescape doubleEscape? value, rest)
    | none => .error ('"' :: behind)
  | _ =>
    let (line, rest) := cs.span (· ≠ '\n')
    .ok (Text.trim (dropComment false line), rest)

/-- The text behind a comment. -/
def skipComment (cs : List Char) : List Char :=
  match skipInline cs with
  | '#' :: rest => rest.dropWhile (· ≠ '\n')
  | _ => cs

/-- The text behind the end of a line. -/
def scanLineEnd (cs : List Char) : Except (List Char) (List Char) :=
  match skipInline cs with
  | [] => .ok []
  | '\n' :: rest => .ok rest
  | _ => .error cs

/-- One binding and the line it ends on, from the start of a name. -/
def scanLine (cs : List Char) : Except (List Char) (Option Binding × List Char) := do
  let (name?, cs) ← scanKey (skipExport cs)
  let cs := skipInline cs
  let (value?, cs) ← match cs with
    | '=' :: behind => do
      let (value, cs) ← scanEnvValue behind
      pure (some value, cs)
    | _ => pure (none, cs)
  let cs ← scanLineEnd (skipComment cs)
  return (name?.map fun name => (name, value?), cs)

/-- The next binding, if the next line is one, and the rest of the text. -/
def scanBinding (cs : List Char) : Option Binding × List Char :=
  match cs.dropWhile Text.isBlank with
  | [] => (none, [])
  | cs =>
    match scanLine cs with
    | .ok found => found
    | .error rest => (none, (rest.dropWhile (· ≠ '\n')).drop 1)

/-- The bindings of a text, at most `fuel` lines of it. -/
def bindingsFrom : Nat → List Char → List Binding
  | 0, _ => []
  | _, [] => []
  | fuel + 1, cs =>
    let (found, rest) := scanBinding cs
    found.toList ++ bindingsFrom fuel rest

/-- A text without the byte order mark in front. -/
def dropMark : List Char → List Char
  | '\ufeff' :: cs => cs
  | cs => cs

/-- The bindings of a file.  A line has at least one character. -/
def bindings (text : String) : List Binding :=
  let cs := unifyLines (dropMark text.toList)
  bindingsFrom cs.length cs

/-! ### Variables in values -/

/-- The name and the default of a variable, behind `${`, and the rest of the text. -/
def scanVariable (cs : List Char) : Option (List Char × List Char × List Char) :=
  let name := cs.takeWhile fun c => c ≠ '\x7d' && c ≠ ':'
  match cs.drop name.length with
  | '\x7d' :: rest => some (name, [], rest)
  | ':' :: '-' :: behind =>
    match behind.span (· ≠ '\x7d') with
    | (absent, _ :: rest) => some (name, absent, rest)
    | _ => none
  | _ => none

/-- A value with the values of the variables it mentions.  A variable without a value is empty, and
one that does not exist has its default. -/
def expand (find? : String → Option (Option String)) : Nat → List Char → List Char
  | 0, cs => cs
  | fuel + 1, '$' :: '\x7b' :: cs =>
    match scanVariable cs with
    | some (name, absent, rest) =>
      let value := match find? (String.ofList name) with
        | some (some s) => s.toList
        | some none => []
        | none => absent
      value ++ expand find? fuel rest
    | none => '$' :: expand find? fuel ('\x7b' :: cs)
  | fuel + 1, c :: cs => c :: expand find? fuel cs
  | _, [] => []

/-- The variables of some bindings, added to those so far.  Values may mention earlier variables and
those of the environment. -/
def addVariables (environment : List (String × String)) :
    List (String × Option String) → List Binding → List (String × Option String)
  | found, [] => found
  | found, (name, value?) :: rest =>
    let find? (s : String) : Option (Option String) :=
      (Named.lookup s found).or ((Named.lookup s environment).map some)
    let value? := value?.map fun value => String.ofList (expand find? (value.length + 1) value)
    addVariables environment (Named.put (String.ofList name) value? found) rest

/-- The variables of a file. -/
def table (environment : List (String × String)) (text : String) :
    List (String × Option String) :=
  addVariables environment [] (bindings text)

end MetricIntake.Dotenv
