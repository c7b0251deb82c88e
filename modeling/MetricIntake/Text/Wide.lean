import MetricIntake.Text.CodePoint

/-!
# UTF-16 and UTF-32

Texts in units of two and four bytes: `Wide.decodeUtf16?` and `Wide.decodeUtf32?`, in either order
of the bytes of a unit.  An incomplete unit or a value beyond U+10FFFF is no text; surrogates may
stand alone, and in UTF-16 two of them make one character.
-/

namespace MetricIntake.Wide

/-- The order of the bytes of a unit. -/
inductive ByteOrder
  | big
  | little
deriving DecidableEq, Repr

/-- The value of some bytes, the last of which counts least in big order. -/
def unitValue (order : ByteOrder) (bytes : List UInt8) : Nat :=
  let ordered := match order with
    | .big => bytes
    | .little => bytes.reverse
  ordered.foldl (fun n b => n * 0x100 + b.toNat) 0

/-- The units of two bytes. -/
def units16? (order : ByteOrder) : List UInt8 → Option (List Nat)
  | [] => some []
  | a :: b :: rest => (units16? order rest).map (unitValue order [a, b] :: ·)
  | _ => none

/-- The units of four bytes. -/
def units32? (order : ByteOrder) : List UInt8 → Option (List Nat)
  | [] => some []
  | a :: b :: c :: d :: rest => (units32? order rest).map (unitValue order [a, b, c, d] :: ·)
  | _ => none

/-- The code points of units of two bytes, two surrogates making one character. -/
def joinUnits : List Nat → CodeText
  | n :: m :: rest =>
    if 0xD800 ≤ n ∧ n < 0xDC00 ∧ 0xDC00 ≤ m ∧ m < 0xE000 then
      .ofNat (0x10000 + (n - 0xD800) * 0x400 + (m - 0xDC00)) :: joinUnits rest
    else .ofNat n :: joinUnits (m :: rest)
  | [n] => [.ofNat n]
  | [] => []

/-- The text of bytes in UTF-16. -/
def decodeUtf16? (order : ByteOrder) (bytes : List UInt8) : Option CodeText :=
  (units16? order bytes).map joinUnits

/-- The text of bytes in UTF-32. -/
def decodeUtf32? (order : ByteOrder) (bytes : List UInt8) : Option CodeText :=
  (units32? order bytes).bind fun units =>
    if units.all (· < 0x110000) then some (units.map CodePoint.ofNat) else none

end MetricIntake.Wide
