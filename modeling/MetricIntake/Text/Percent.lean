import MetricIntake.Text.Hex
import MetricIntake.Text.Utf8

/-!
# Percent-encoding

A text as one segment of a URL: `Percent.encode` keeps letters, digits and `_ . - ~` and writes
every other byte of its UTF-8 form as a percent sign and two hexadecimal digits.  `Percent.decode`
are the bytes that an encoded text stands for, and `Percent.decodeText` the text.
-/

namespace MetricIntake.Percent

/-- A byte that stands for itself. -/
def isUnreserved (b : UInt8) : Bool :=
  let n := b.toNat
  (0x41 ≤ n && n ≤ 0x5A) || (0x61 ≤ n && n ≤ 0x7A) || (0x30 ≤ n && n ≤ 0x39) ||
    n = 0x5F || n = 0x2E || n = 0x2D || n = 0x7E

/-- One byte: itself, or a percent sign and two digits. -/
def encodeByte (b : UInt8) : List Char :=
  if isUnreserved b then [Char.ofNat b.toNat]
  else ['%', Text.upperHexDigit (b.toNat / 16), Text.upperHexDigit (b.toNat % 16)]

/-- A text as one segment of a URL. -/
def encode (cs : List Char) : List Char :=
  (Utf8.encode cs).flatMap encodeByte

/-- The bytes of a text.  A percent sign without two digits stands for itself. -/
def decode : List Char → List UInt8
  | [] => []
  | '%' :: a :: b :: cs =>
    match Text.hexValue? a, Text.hexValue? b with
    | some high, some low => UInt8.ofNat (high * 16 + low) :: decode cs
    | _, _ => Utf8.encode ['%'] ++ decode (a :: b :: cs)
  | c :: cs => Utf8.encode [c] ++ decode cs
termination_by cs => cs.length

/-- The text that an encoded text stands for.  Percent signs make up characters with those in the
same run of ASCII characters alone, and bytes that are no UTF-8 become U+FFFD. -/
def decodeText (cs : List Char) : List Char :=
  (cs.splitBy fun a b => a.toNat < 0x80 && b.toNat < 0x80).flatMap (Utf8.decodeAny ∘ decode)

end MetricIntake.Percent
