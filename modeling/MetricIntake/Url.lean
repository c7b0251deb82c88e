import MetricIntake.IpAddress
import MetricIntake.Text.Case
import MetricIntake.Text.Percent
import MetricIntake.Text.Split

/-!
# URLs

The parts of a URL: `Url.read` tells authority, path and query apart, of the authority `Url.user?`,
`Url.password?`, `Url.host?` and `Url.portNumber` are parts, and `Url.options` are the named texts
of the query.
-/

namespace MetricIntake

/-- What stands behind the scheme of a URL, each part as it is written; without two slashes there is
no authority. -/
structure Url where
  authority : List Char
  path : List Char
  query : List Char
deriving DecidableEq, Repr

/-- Why a text is no URL, or has no port. -/
inductive UrlError
  | badBrackets
  | noAddress (host : String)
  | version4InBrackets
  | badFuture
  | lookalike (authority : String)
  | badPort (written : String)
  | longPort (digits : Nat)
  | oversizedPort
deriving DecidableEq, Repr

/-- What is said about a text that is no URL. -/
def UrlError.message : UrlError → String
  | badBrackets => "Invalid IPv6 URL"
  | noAddress host => Text.quote host ++ " does not appear to be an IPv4 or IPv6 address"
  | version4InBrackets => "An IPv4 address cannot be in brackets"
  | badFuture => "IPvFuture address is invalid"
  | lookalike authority =>
    "netloc '" ++ authority ++ "' contains invalid characters under NFKC normalization"
  | badPort written => "Port could not be cast to integer value as " ++ Text.quote written
  | longPort digits => Numeral.longWholeMessage digits
  | oversizedPort => "Port out of range 0-65535"

namespace Url

/-- The characters whose compatibility form by Unicode 14 has one of `/ ? # @ :` in it, which
separate the parts of a URL. -/
def lookalikes : List Nat :=
  [0x2047, 0x2048, 0x2049, 0x2100, 0x2101, 0x2105, 0x2106, 0x2A74, 0xFE13, 0xFE16, 0xFE55, 0xFE56,
    0xFE5F, 0xFE6B, 0xFF03, 0xFF0F, 0xFF1A, 0xFF1F, 0xFF20]

/-- A character that ends the authority. -/
def endsAuthority (c : Char) : Bool := c = '/' || c = '?' || c = '#'

/-- A character that does not count wherever it stands. -/
def isIgnored (c : Char) : Bool := c = '\t' || c = '\n' || c = '\r'

/-- What is wrong with a host in an authority that has brackets. -/
def hostError? (host : List Char) : Option UrlError :=
  if host.head? = some 'v' then if IpAddress.isFuture host then none else some .badFuture
  else if IpAddress.isVersion4 host then some .version4InBrackets
  else if IpAddress.isVersion6 host then none
  else some (.noAddress (String.ofList host))

/-- What is wrong with the brackets of an authority.  Nothing stands in front of them but who has
access, and nothing behind them but a port. -/
def bracketError? (authority : List Char) : Option UrlError :=
  match authority.contains '[', authority.contains ']' with
  | false, false => none
  | true, true =>
    match Text.splitFirst '[' (Text.splitLast '@' authority).2 with
    | (before, some bracketed) =>
      let (host, behind) := Text.splitFirst ']' bracketed
      if !before.isEmpty || ((behind.getD []).head?).any (· ≠ ':') then some .badBrackets
      else hostError? host
    | (place, none) => hostError? (Text.splitFirst ':' place).1
  | _, _ => some .badBrackets

/-- A character of the name of a scheme. -/
def inScheme (c : Char) : Bool := c.isAlphanum || c = '+' || c = '-' || c = '.'

/-- A URL behind its scheme, if it has one: a letter, more characters of such names, and a colon. -/
def dropScheme (cs : List Char) : List Char :=
  match cs.span inScheme with
  | (letter :: _, ':' :: rest) => if letter.isAlpha then rest else cs
  | _ => cs

/-- The authority, which two slashes announce, and what stands behind it. -/
def splitAuthority (cs : List Char) : List Char × List Char :=
  match cs with
  | '/' :: '/' :: rest => rest.span (!endsAuthority ·)
  | _ => ([], cs)

/-- The URL in a text.  Controls and spaces in front do not count. -/
def read (text : List Char) : Except UrlError Url :=
  let cs := (text.dropWhile (·.toNat ≤ 0x20)).filter (!isIgnored ·)
  let (authority, rest) := splitAuthority (dropScheme cs)
  match bracketError? authority with
  | some e => .error e
  | none =>
    if authority.any fun c => lookalikes.contains c.toNat then
      .error (.lookalike (String.ofList authority))
    else
      let (front, _) := Text.splitFirst '#' rest
      let (path, query) := Text.splitFirst '?' front
      .ok { authority, path, query := query.getD [] }

/-! ### The authority -/

/-- The name and the password in front of the last `@`, and the place behind it. -/
def access (u : Url) : Option (List Char) × List Char := Text.splitLast '@' u.authority

/-- The text that a part stands for, if it is not empty. -/
def part? (cs : List Char) : Option String :=
  if cs.isEmpty then none else some (String.ofList (Percent.decodeText cs))

/-- The name of the user. -/
def user? (u : Url) : Option String :=
  u.access.1.bind fun access => part? (Text.splitFirst ':' access).1

/-- The password of the user. -/
def password? (u : Url) : Option String :=
  (u.access.1.bind fun access => (Text.splitFirst ':' access).2).bind part?

/-- The host of a place and what follows its colon; a host with colons is in brackets. -/
def splitPlace (place : List Char) : List Char × List Char :=
  match Text.splitFirst '[' place with
  | (_, some bracketed) =>
    let (host, rest) := Text.splitFirst ']' bracketed
    (host, ((Text.splitFirst ':' (rest.getD [])).2).getD [])
  | (_, none) =>
    let (host, number) := Text.splitFirst ':' place
    (host, number.getD [])

/-- The host, in lower case up to the first percent sign in it. -/
def host? (u : Url) : Option String :=
  let (named, zone) := (splitPlace u.access.2).1.span (· ≠ '%')
  part? ((Text.lowerCase (String.ofList named)).toList ++ zone)

/-- The number of the port, if there is one. -/
def portNumber (u : Url) : Except UrlError (Option Nat) :=
  let digits := (splitPlace u.access.2).2
  if digits.isEmpty then .ok none
  else if !digits.all isDigit then .error (.badPort (String.ofList digits))
  else if Numeral.digitsLimit < digits.length then .error (.longPort digits.length)
  else
    let n := digitsValue digits
    if 65535 < n then .error .oversizedPort else .ok (some n)

/-! ### The query -/

/-- The text that a part of a query stands for, in which a plus sign is a space. -/
def formText (cs : List Char) : List Char :=
  Percent.decodeText (cs.map fun c => if c = '+' then ' ' else c)

/-- An item of a query with a name and a text behind the equals sign. -/
def option? (item : List Char) : Option (String × List Char) :=
  match Text.splitFirst '=' item with
  | (name, some (c :: value)) => some (String.ofList (formText name), formText (c :: value))
  | _ => none

/-- The options of a query, each with the first of its texts. -/
def options (u : Url) : List (String × List Char) :=
  ((u.query.splitOn '&').filterMap option?).foldl
    (fun found (name, value) =>
      if found.any (·.1 = name) then found else found ++ [(name, value)])
    []

end Url

end MetricIntake
