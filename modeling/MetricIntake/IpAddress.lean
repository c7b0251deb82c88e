import MetricIntake.Numeral
import MetricIntake.Text.Hex

/-!
# Addresses of hosts

The written addresses of hosts by number: `IpAddress.isVersion4`, `IpAddress.isVersion6` and, for
versions to come, `IpAddress.isFuture`.
-/

namespace MetricIntake.IpAddress

/-- A number up to 255 without a zero in front. -/
def isOctet (cs : List Char) : Bool :=
  !cs.isEmpty && cs.all isDigit && cs.length ≤ 3 && (cs.length = 1 || cs.head? != some '0') &&
    digitsValue cs ≤ 255

/-- Four octets with points between them. -/
def isVersion4 (cs : List Char) : Bool :=
  let octets := cs.splitOn '.'
  octets.length = 4 && octets.all isOctet

/-- One to four hexadecimal digits. -/
def isGroup (cs : List Char) : Bool :=
  !cs.isEmpty && cs.length ≤ 4 && cs.all fun c => (Text.hexValue? c).isSome

/-- Groups on one side of two colons, where there may be none. -/
def sideGroups (groups : List (List Char)) : List (List Char) :=
  if groups = [[]] then [] else groups

/-- The groups of an address.  One of version 4 at the end stands for two of them. -/
def groups (cs : List Char) : Option (List (List Char)) :=
  let parts := cs.splitOn ':'
  match parts.getLast? with
  | some suffix =>
    if suffix.contains '.' then
      if isVersion4 suffix then some (parts.dropLast ++ [['0'], ['0']]) else none
    else some parts
  | none => none

/-- Eight groups, or at most seven with one place between them where two colons stand for the
others. -/
def areGroups (gs : List (List Char)) : Bool :=
  match gs with
  | [] => false
  | first :: rest =>
    match rest.span (!·.isEmpty) with
    | (before, _ :: after :: more) =>
      let left := sideGroups (first :: before)
      let right := sideGroups (after :: more)
      left.all isGroup && right.all isGroup && left.length + right.length ≤ 7
    | _ => gs.length = 8 && gs.all isGroup

/-- An address of version 6, which may have a scope behind a percent sign. -/
def isVersion6 (cs : List Char) : Bool :=
  let (address, scope) := cs.span (· ≠ '%')
  let isScope := match scope with
    | [] => true
    | _ :: name => !name.isEmpty && !name.contains '%'
  isScope && !cs.contains '/' && (groups address).any areGroups

/-- A letter `v`, hexadecimal digits, a point and any text. -/
def isFuture (cs : List Char) : Bool :=
  match cs with
  | 'v' :: rest =>
    match rest.span fun c => (Text.hexValue? c).isSome with
    | (_ :: _, '.' :: _ :: _) => true
    | _ => false
  | _ => false

end MetricIntake.IpAddress
