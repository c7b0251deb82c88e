import MetricIntake.Text.CodePoint

/-!
# UTF-8

Characters as bytes and back: `Utf8.encode`, and `Utf8.decode`, which says where and why bytes are
no text.  Overlong forms, surrogates and values beyond U+10FFFF are refused.  `Utf8.decodeAny` is a
text for any bytes, and `Utf8.decodeHalves?` takes surrogates as well.
-/

namespace MetricIntake.Utf8

/-- The bytes of a text. -/
def encode (cs : List Char) : List UInt8 :=
  cs.flatMap String.utf8EncodeChar

/-- What is wrong with a byte sequence. -/
inductive Cause
  | invalidStart
  | invalidContinuation
  | unexpectedEnd
deriving DecidableEq, Repr

/-- What a cause is called. -/
def Cause.message : Cause → String
  | invalidStart => "invalid start byte"
  | invalidContinuation => "invalid continuation byte"
  | unexpectedEnd => "unexpected end of data"

/-- The first bytes that are no text: how many bytes are before them, and the bytes. -/
structure DecodeError where
  position : Nat
  bytes : List UInt8
  cause : Cause
deriving DecidableEq, Repr

/-- A byte that continues a character. -/
def isContinuation (b : UInt8) : Bool := 0x80 ≤ b.toNat && b.toNat < 0xC0

/-- The number of bytes of the character that a byte starts. -/
def sequenceLength? (b : UInt8) : Option Nat :=
  let n := b.toNat
  if n < 0x80 then some 1
  else if n < 0xC2 then none
  else if n < 0xE0 then some 2
  else if n < 0xF0 then some 3
  else if n < 0xF5 then some 4
  else none

/-- A second byte that may stand behind a first one: a continuation, but none that would make the
form overlong, a surrogate, or too large. -/
def isSecond (first second : UInt8) : Bool :=
  let n := first.toNat
  let m := second.toNat
  isContinuation second &&
    !(n = 0xE0 && m < 0xA0) && !(n = 0xED && 0xA0 ≤ m) &&
    !(n = 0xF0 && m < 0x90) && !(n = 0xF4 && 0x90 ≤ m)

/-- The low six bits, which a continuation byte carries. -/
def payload (b : UInt8) : Nat := b.toNat % 0x40

/-- The remaining bytes as text, behind so many bytes and these characters in reverse. -/
def decodeFrom (acc : List Char) (position : Nat) : List UInt8 → Except DecodeError (List Char)
  | [] => .ok acc.reverse
  | b :: rest =>
    match sequenceLength? b with
    | some 1 => decodeFrom (Char.ofNat b.toNat :: acc) (position + 1) rest
    | some 2 =>
      match rest with
      | [] => .error ⟨position, [b], .unexpectedEnd⟩
      | c :: rest =>
        if isSecond b c then
          decodeFrom (Char.ofNat (b.toNat % 0x20 * 0x40 + payload c) :: acc) (position + 2) rest
        else .error ⟨position, [b], .invalidContinuation⟩
    | some 3 =>
      match rest with
      | [] => .error ⟨position, [b], .unexpectedEnd⟩
      | c :: rest =>
        if isSecond b c then
          match rest with
          | [] => .error ⟨position, [b, c], .unexpectedEnd⟩
          | d :: rest =>
            if isContinuation d then
              decodeFrom
                (Char.ofNat ((b.toNat % 0x10 * 0x40 + payload c) * 0x40 + payload d) :: acc)
                (position + 3) rest
            else .error ⟨position, [b, c], .invalidContinuation⟩
        else .error ⟨position, [b], .invalidContinuation⟩
    | some _ =>
      match rest with
      | [] => .error ⟨position, [b], .unexpectedEnd⟩
      | c :: rest =>
        if isSecond b c then
          match rest with
          | [] => .error ⟨position, [b, c], .unexpectedEnd⟩
          | d :: rest =>
            if isContinuation d then
              match rest with
              | [] => .error ⟨position, [b, c, d], .unexpectedEnd⟩
              | e :: rest =>
                if isContinuation e then
                  decodeFrom
                    (Char.ofNat (((b.toNat % 0x08 * 0x40 + payload c) * 0x40 + payload d) * 0x40 +
                      payload e) :: acc)
                    (position + 4) rest
                else .error ⟨position, [b, c, d], .invalidContinuation⟩
            else .error ⟨position, [b, c], .invalidContinuation⟩
        else .error ⟨position, [b], .invalidContinuation⟩
    | none => .error ⟨position, [b], .invalidStart⟩

/-- The text of a sequence of bytes. -/
def decode (bytes : List UInt8) : Except DecodeError (List Char) :=
  decodeFrom [] 0 bytes

/-- The text of a sequence of bytes, if they are one. -/
def decode? (bytes : List UInt8) : Option (List Char) :=
  (decode bytes).toOption

/-- The text of any bytes, at most `fuel` sequences of them that are no text.  Each of these becomes
one U+FFFD. -/
def decodeAnyFrom : Nat → List UInt8 → List Char
  | 0, _ => []
  | fuel + 1, bytes =>
    match decode bytes with
    | .ok cs => cs
    | .error e =>
      (decode? (bytes.take e.position)).getD [] ++
        '\ufffd' :: decodeAnyFrom fuel (bytes.drop (e.position + e.bytes.length))

/-- The text of any bytes.  A sequence that is no text has at least one byte. -/
def decodeAny (bytes : List UInt8) : List Char :=
  decodeAnyFrom (bytes.length + 1) bytes

/-! ### Surrogates -/

/-- The surrogate that two bytes behind `0xED` write, which have its low eleven bits. -/
def halfOf? (second third : UInt8) : Option (Fin 0x800) :=
  if 0xA0 ≤ second.toNat ∧ second.toNat < 0xC0 ∧ isContinuation third then
    some (Fin.ofNat 0x800 (payload second * 0x40 + payload third))
  else none

/-- The bytes up to the first surrogate, and each surrogate with the bytes up to the next one.  The
byte `0xED` starts a sequence wherever it stands in a text. -/
def splitHalves : List UInt8 → List UInt8 × List (Fin 0x800 × List UInt8)
  | 0xED :: b :: c :: rest =>
    match halfOf? b c with
    | some half =>
      let (bytes, more) := splitHalves rest
      ([], (half, bytes) :: more)
    | none =>
      let (bytes, more) := splitHalves (b :: c :: rest)
      (0xED :: bytes, more)
  | b :: rest =>
    let (bytes, more) := splitHalves rest
    (b :: bytes, more)
  | [] => ([], [])

/-- Surrogates and the bytes behind each of them as text. -/
def decodeParts? : List (Fin 0x800 × List UInt8) → Option CodeText
  | [] => some []
  | (half, bytes) :: parts => do
    let cs ← decode? bytes
    let rest ← decodeParts? parts
    return .half half :: (CodeText.ofChars cs ++ rest)

/-- The text of a sequence of bytes in which surrogates have the form of characters. -/
def decodeHalves? (bytes : List UInt8) : Option CodeText := do
  let (bytes, parts) := splitHalves bytes
  let cs ← decode? bytes
  let rest ← decodeParts? parts
  return CodeText.ofChars cs ++ rest

end MetricIntake.Utf8
