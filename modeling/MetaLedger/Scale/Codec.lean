import MetaLedger.Scale.Sequence

/-!
# Codecs

A codec is a written form together with its reader. `Fits` names the values that have a written
form: a list or text whose length is a 32-bit number, and all values of a type without lists. Codecs
of records are put together from those of their fields with `pair` and `iso`, so the two directions
cannot drift apart.
-/

namespace MetaLedger.Scale

/-- A written form and its reader. -/
structure Codec (α : Type) where
  encode : α → Bytes
  read : Reader α
  /-- The value has a written form. -/
  Fits : α → Prop

namespace Codec

variable {α β : Type}

def byte : Codec UInt8 := ⟨fun b => [b], Reader.byte, fun _ => True⟩

/-- The bytes as they are, without a length. -/
def fixed (n : Nat) : Codec (Fixed n) := ⟨Fixed.toList, Reader.fixed n, fun _ => True⟩

/-- A 32-bit integer, least significant byte first. -/
def word : Codec UInt32 :=
  ⟨fun n => Bytes.ofNatLE 4 n.toNat, fun input =>
    match Reader.natLE 4 input with
    | .ok (n, rest) => .ok (UInt32.ofNat n, rest)
    | .error e => .error e, fun _ => True⟩

/-- A 128-bit integer, least significant byte first. -/
def wide : Codec (BitVec 128) :=
  ⟨fun n => Bytes.ofNatLE 16 n.toNat, fun input =>
    match Reader.natLE 16 input with
    | .ok (n, rest) => .ok (BitVec.ofNat 128 n, rest)
    | .error e => .error e, fun _ => True⟩

/-- A 32-bit integer in compact form. -/
def compactWord : Codec UInt32 :=
  ⟨fun n => encodeCompact n.toNat, fun input =>
    match compact .u32 input with
    | .ok (n, rest) => .ok (UInt32.ofNat n, rest)
    | .error e => .error e, fun _ => True⟩

/-- A 128-bit integer in compact form. -/
def compactWide : Codec (BitVec 128) :=
  ⟨fun n => encodeCompact n.toNat, fun input =>
    match compact .u128 input with
    | .ok (n, rest) => .ok (BitVec.ofNat 128 n, rest)
    | .error e => .error e, fun _ => True⟩

/-- A byte sequence behind its length. -/
def bytes : Codec Bytes := ⟨encodeBytes, Scale.bytes, fun b => b.length < UInt32.size⟩

/-- A text behind its length. -/
def text : Codec String :=
  ⟨encodeText, Scale.text, fun s => (Bytes.ofString s).length < UInt32.size⟩

/-- A list behind its length. -/
def list (c : Codec α) : Codec (List α) :=
  ⟨encodeList c.encode, Scale.list c.read, fun xs => xs.length < UInt32.size ∧ ∀ x ∈ xs, c.Fits x⟩

/-- A value that may be missing. -/
def option (c : Codec α) : Codec (Option α) :=
  ⟨encodeOption c.encode, Scale.option c.read, fun x => ∀ y ∈ x, c.Fits y⟩

/-- Two values, one after the other. -/
def pair (c : Codec α) (d : Codec β) : Codec (α × β) :=
  ⟨fun p => c.encode p.1 ++ d.encode p.2, do return (← c.read, ← d.read),
    fun p => c.Fits p.1 ∧ d.Fits p.2⟩

/-- The codec of a type whose values are those of `α` under another name. -/
def iso (c : Codec α) (rebuild : α → β) (back : β → α) : Codec β :=
  ⟨fun y => c.encode (back y), fun input =>
    match c.read input with
    | .ok (x, rest) => .ok (rebuild x, rest)
    | .error e => .error e, fun y => c.Fits (back y)⟩

/-- Puts the error of the field `path` under its name. -/
def field (path : String) (c : Codec α) : Codec α := { c with read := c.read.field path }

/-- The value of an input that holds nothing more. -/
def decode (c : Codec α) (input : Bytes) : Except Error α := c.read.complete input

end Codec

end MetaLedger.Scale
