import MetaLedger.Bytes
import MetaLedger.Text.Quoted

/-!
# Hexadecimal text

Bytes are written as two lower-case digits each (`encode`). A reader accepts digits of either case
and any number of leading `0x` (`decode`, `decodeFixed`). A text is refused for an odd number of
digits first, then for its first character that is no digit, then for its length.
-/

namespace MetaLedger.Hex

/-- The digit of a number below sixteen. -/
def digit (n : Nat) : Char :=
  if n < 10 then Char.ofNat (n + 48) else Char.ofNat (n + 87)

/-- The number a digit of either case stands for. -/
def digitValue? (b : UInt8) : Option UInt8 :=
  if 48 ≤ b ∧ b ≤ 57 then some (b - 48)
  else if 97 ≤ b ∧ b ≤ 102 then some (b - 87)
  else if 65 ≤ b ∧ b ≤ 70 then some (b - 55)
  else none

/-- The digits of a byte string, two for each byte. -/
def encodeChars (bytes : Bytes) : List Char :=
  bytes.flatMap fun b => [digit (b.toNat / 16), digit (b.toNat % 16)]

/-- The digits of a byte string as a text. -/
def encode (bytes : Bytes) : String := String.ofList (encodeChars bytes)

/-- The digits of a byte string behind `0x`. -/
def encode0x (bytes : Bytes) : String := "0x" ++ encode bytes

/-- Why a text is no byte string. -/
inductive Error where
  | oddLength
  | invalidDigit (byte : UInt8) (position : Nat)
  | wrongLength
deriving DecidableEq

namespace Error

/-- The wording of the refusal. A byte that is no digit is shown as the character of that number. -/
def message : Error → String
  | oddLength => "Odd number of digits"
  | invalidDigit byte position =>
    "Invalid character " ++ Text.quoteChar (Char.ofNat byte.toNat) ++ " at position "
      ++ toString position
  | wrongLength => "Invalid string length"

end Error

/-- The text after every leading `0x`. -/
def stripMarks : List Char → List Char
  | '0' :: 'x' :: rest => stripMarks rest
  | text => text

/-- Reads digits two by two; `position` counts the bytes of text before them. -/
def decodePairs (position : Nat) : Bytes → Except Error Bytes
  | [] => .ok []
  | [_] => .error .oddLength
  | high :: low :: rest =>
    match digitValue? high, digitValue? low with
    | none, _ => .error (.invalidDigit high position)
    | some _, none => .error (.invalidDigit low (position + 1))
    | some h, some l =>
      match decodePairs (position + 2) rest with
      | .ok bytes => .ok ((h * 16 + l) :: bytes)
      | .error e => .error e

/-- Reads the UTF-8 bytes of a text as digits. -/
def decodeDigits (text : Bytes) : Except Error Bytes :=
  if text.length % 2 = 1 then .error .oddLength else decodePairs 0 text

/-- Reads a text of digits, behind any number of `0x`. -/
def decode (s : String) : Except Error Bytes :=
  decodeDigits (Bytes.ofString (String.ofList (stripMarks s.toList)))

/-- Reads a text of exactly `2 * n` digits, behind any number of `0x`. -/
def decodeFixed (n : Nat) (s : String) : Except Error (Fixed n) :=
  match decode s with
  | .error e => .error e
  | .ok bytes =>
    match Fixed.ofList? n bytes with
    | some b => .ok b
    | none => .error .wrongLength

end MetaLedger.Hex
