import MetricIntake.Double.Display
import MetricIntake.Json.Basic
import MetricIntake.Text.Quoted

/-!
# Writing JSON

`Json.render` is the compact text of a value.  `Json.showOuter` is the text that a value has as a
sample's value: strings are bare at the outside and quoted inside, by `Json.showInner`, with the
words `None`, `True` and `False`.
-/

namespace MetricIntake.Json

/-- One character of a string.  Quotes, backslashes and controls are escaped and nothing else. -/
def renderChar (c : Char) : List Char :=
  if c = '"' then ['\\', '"']
  else if c = '\\' then ['\\', '\\']
  else if c = '\x08' then ['\\', 'b']
  else if c = '\x0c' then ['\\', 'f']
  else if c = '\n' then ['\\', 'n']
  else if c = '\r' then ['\\', 'r']
  else if c = '\t' then ['\\', 't']
  else if c.toNat < 0x20 then '\\' :: 'u' :: Text.hexPadded 4 c.toNat
  else [c]

/-- One code point of a string; a half of a character is an escape. -/
def renderPoint : CodePoint → List Char
  | .char c => renderChar c
  | p => Text.halfEscape p

/-- A string between quotes. -/
def renderString (s : CodeText) : List Char :=
  '"' :: (s.flatMap renderPoint ++ ['"'])

/-- A whole number. -/
def wholeChars (n : Int) : List Char :=
  signText (n < 0) ++ wholeText n.natAbs

mutual

/-- The compact text of a value. -/
def render : Json → List Char
  | null => "null".toList
  | bool true => "true".toList
  | bool false => "false".toList
  | whole n => wholeChars n
  | double .nan => "NaN".toList
  | double (.infinite negative) => signText negative ++ "Infinity".toList
  | double x => x.displayText
  | text s => renderString s
  | array [] => ['[', ']']
  | array (item :: items) => '[' :: (render item ++ renderItems items)
  | object [] => ['\x7b', '\x7d']
  | object ((name, value) :: members) =>
    '\x7b' :: (renderString name ++ ':' :: (render value ++ renderMembers members))

/-- The further items of an array and its end. -/
def renderItems : List Json → List Char
  | [] => [']']
  | item :: items => ',' :: (render item ++ renderItems items)

/-- The further members of an object and its end. -/
def renderMembers : List (CodeText × Json) → List Char
  | [] => ['\x7d']
  | (name, value) :: members =>
    ',' :: (renderString name ++ ':' :: (render value ++ renderMembers members))

end

mutual

/-- The text of a value inside another. -/
def showInner : Json → List Char
  | null => "None".toList
  | bool true => "True".toList
  | bool false => "False".toList
  | whole n => wholeChars n
  | double x => x.displayText
  | text s => Text.quoted s
  | array [] => ['[', ']']
  | array (item :: items) => '[' :: (showInner item ++ showItems items)
  | object [] => ['\x7b', '\x7d']
  | object ((name, value) :: members) =>
    '\x7b' :: (Text.quoted name ++ ':' :: ' ' :: (showInner value ++ showMembers members))

/-- The further items of an array and its end. -/
def showItems : List Json → List Char
  | [] => [']']
  | item :: items => ',' :: ' ' :: (showInner item ++ showItems items)

/-- The further members of an object and its end. -/
def showMembers : List (CodeText × Json) → List Char
  | [] => ['\x7d']
  | (name, value) :: members =>
    ',' :: ' ' ::
      (Text.quoted name ++ ':' :: ' ' :: (showInner value ++ showMembers members))

end

/-- The text of a value, a string being its own text. -/
def showOuter : Json → CodeText
  | text s => s
  | value => .ofChars (showInner value)

end MetricIntake.Json
