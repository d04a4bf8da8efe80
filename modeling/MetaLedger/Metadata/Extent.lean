import MetaLedger.Metadata.Format

/-!
# The extent of values

How far a value of a type reaches in a byte string. The type is looked up in the registry, and so are
the types it is made of. Types may refer to each other in a circle, so the depth is bounded: between
two bytes that are taken no type is met twice, unless the value has no end.
-/

namespace MetaLedger.Metadata

open Scale (Reader)

/-- Passes over a number of bytes. -/
def skipBytes (n : Nat) : Reader Unit := fun input =>
  if n ≤ input.length then .ok ((), input.drop n) else .error .notEnoughData

namespace Primitive

/-- How many bytes a number type takes. -/
def width : Primitive → Nat
  | u8 | i8 => 1
  | u16 | i16 => 2
  | u32 | i32 => 4
  | u64 | i64 => 8
  | u128 | i128 => 16
  | u256 | i256 => 32
  | bool => 1
  | char => 4
  | str => 0

/-- Passes over a value of a primitive type. -/
def skip : Primitive → Reader Unit
  | bool => do
    if 1 < (← Reader.byte) then Reader.fail (.invalidTag "bool")
  | char => do
    if ¬ (← Reader.natLE 4).isValidChar then Reader.fail .invalidText
  | str => do skipBytes (← Scale.compact .u32)
  | kind => skipBytes kind.width

/-- An unsigned number of at most sixteen bytes, which has a compact form. -/
def isCompact : Primitive → Bool
  | u8 | u16 | u32 | u64 | u128 => true
  | _ => false

end Primitive

namespace Registry

/-- Passes over the compact form of a value; a record of one field has the form of the field. -/
def skipCompact (types : Registry) : Nat → TypeId → Reader Unit
  | 0, _ => Reader.fail (.unknownVariant "Compact")
  | depth + 1, id =>
    match types.definition? id with
    | some (.primitive kind) => do
      let n ← Scale.compact .u128
      if ¬ kind.isCompact ∨ Bytes.bound kind.width ≤ n then Reader.fail (.compactRange .u128)
    | some (.composite [field]) => skipCompact types depth field.type
    | some (.tuple [item]) => skipCompact types depth item
    | some (.tuple []) => pure ()
    | _ => Reader.fail (.unknownVariant "Compact")

/-- Passes over a sequence of bits, which are stored in words of a type. -/
def skipBits (types : Registry) (store : TypeId) : Reader Unit :=
  match types.definition? store with
  | some (.primitive word) => do
    let bits ← Scale.compact .u32
    let wordBits := 8 * max 1 word.width
    skipBytes ((bits + wordBits - 1) / wordBits * word.width)
  | _ => Reader.fail (.unknownVariant "BitSequence")

/-- Passes over a value of a type in which types stand at most `depth` deep. -/
def skipWithin (types : Registry) : Nat → TypeId → Reader Unit
  | 0, _ => Reader.fail (.unknownVariant "Type")
  | depth + 1, id =>
    match types.definition? id with
    | none => Reader.fail (.unknownVariant "Type")
    | some (.composite fields) => fields.forM fun f => skipWithin types depth f.type
    | some (.variant variants) => do
      let index ← Reader.byte
      match variants.find? (·.index = index) with
      | some v => v.fields.forM fun f => skipWithin types depth f.type
      | none => Reader.fail (.unknownVariant "Variant")
    | some (.sequence item) => do
      let _ ← Reader.times (skipWithin types depth item) (← Scale.compact .u32)
    | some (.array length item) => do
      let _ ← Reader.times (skipWithin types depth item) length.toNat
    | some (.tuple items) => items.forM (skipWithin types depth)
    | some (.primitive kind) => kind.skip
    | some (.compact inner) => types.skipCompact depth inner
    | some (.bitSequence store _) => types.skipBits store

/-- Passes over a value of a type. -/
def skip (types : Registry) (id : TypeId) : Reader Unit := fun input =>
  types.skipWithin ((input.length + 1) * (types.length + 1)) id input

/-- The bytes that the values of some fields take. -/
def fieldBytes (types : Registry) (fields : List Field) : Reader Bytes := fun input =>
  match fields.forM (fun f => types.skip f.type) input with
  | .ok (_, rest) => .ok (input.take (input.length - rest.length), rest)
  | .error e => .error e

end Registry

end MetaLedger.Metadata
