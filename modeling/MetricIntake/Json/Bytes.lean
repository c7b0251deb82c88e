import MetricIntake.Json.Reader
import MetricIntake.Text.Utf8
import MetricIntake.Text.Wide

/-!
# JSON in bytes

A JSON text in bytes may be in UTF-8, UTF-16 or UTF-32.  `Encoding.detect` tells which from a byte
order mark or from where the first four bytes are zero, and `Json.readBytes` reads the value.
Surrogates may stand alone.
-/

namespace MetricIntake

/-- How a text is written as bytes, and whether a byte order mark stands in front. -/
inductive Encoding
  | utf8 (marked : Bool)
  | utf16 (order : Wide.ByteOrder) (marked : Bool)
  | utf32 (order : Wide.ByteOrder) (marked : Bool)
deriving DecidableEq, Repr

namespace Encoding

/-- The encoding of a JSON text.  Its first character is ASCII, so the zeros among its first bytes
show the width of a unit and the order of its bytes. -/
def detect (bytes : List UInt8) : Encoding :=
  match bytes with
  | 0x00 :: 0x00 :: 0xFE :: 0xFF :: _ => .utf32 .big true
  | 0xFF :: 0xFE :: 0x00 :: 0x00 :: _ => .utf32 .little true
  | 0xFE :: 0xFF :: _ => .utf16 .big true
  | 0xFF :: 0xFE :: _ => .utf16 .little true
  | 0xEF :: 0xBB :: 0xBF :: _ => .utf8 true
  | a :: b :: c :: d :: _ =>
    if a = 0 then if b = 0 then .utf32 .big false else .utf16 .big false
    else if b = 0 then if c = 0 ∧ d = 0 then .utf32 .little false else .utf16 .little false
    else .utf8 false
  | [a, b] =>
    if a = 0 then .utf16 .big false else if b = 0 then .utf16 .little false else .utf8 false
  | _ => .utf8 false

/-- The text behind the byte order mark, if the bytes are one. -/
def decode? : Encoding → List UInt8 → Option CodeText
  | utf8 marked, bytes => Utf8.decodeHalves? (if marked then bytes.drop 3 else bytes)
  | utf16 order marked, bytes => Wide.decodeUtf16? order (if marked then bytes.drop 2 else bytes)
  | utf32 order marked, bytes => Wide.decodeUtf32? order (if marked then bytes.drop 4 else bytes)

end Encoding

/-- The value that some bytes write; `none` where they are no text at all. -/
def Json.readBytes (depth : Json.Depth) (bytes : List UInt8) :
    Option (Except Json.ReadError Json) :=
  ((Encoding.detect bytes).decode? bytes).map (Json.read depth)

end MetricIntake
