import MetaLedger.Scale.Compact

/-!
# Sequences, texts and optional values

A sequence is its compact length and then its items; a sequence of bytes, a text or an optional
value is written in the same manner. A length is a 32-bit number.
-/

namespace MetaLedger.Scale

variable {α : Type}

/-- A byte sequence behind its length. -/
def encodeBytes (bytes : Bytes) : Bytes := encodeCompact bytes.length ++ bytes

/-- Reads a byte sequence. That bytes are missing is found from the length, before any is taken. -/
def bytes : Reader Bytes := do
  let n ← compact .u32
  fun input =>
    if n ≤ input.length then .ok (input.take n, input.drop n) else .error .sequenceTooShort

/-- Reads a byte sequence that spans the whole input. -/
def decodeBytes (input : Bytes) : Except Error Bytes := bytes.complete input

/-- A text as the sequence of its UTF-8 bytes. -/
def encodeText (s : String) : Bytes := encodeBytes (Bytes.ofString s)

/-- Reads a text; its bytes are valid UTF-8. -/
def text : Reader String := do
  let raw ← bytes
  match Bytes.toString? raw with
  | some s => return s
  | none => Reader.fail .invalidText

/-- The items of a list behind their number. -/
def encodeList (encode : α → Bytes) (xs : List α) : Bytes :=
  encodeCompact xs.length ++ xs.flatMap encode

/-- Reads a list. -/
def list (r : Reader α) : Reader (List α) := do
  let n ← compact .u32
  r.times n

/-- An optional value: zero, or one and the value. -/
def encodeOption (encode : α → Bytes) : Option α → Bytes
  | none => [0]
  | some x => 1 :: encode x

/-- Reads an optional value. -/
def option (r : Reader α) : Reader (Option α) := do
  match ← Reader.byte with
  | 0 => return none
  | 1 =>
    let x ← r
    return some x
  | _ => Reader.fail (.invalidTag "optional value")

end MetaLedger.Scale
