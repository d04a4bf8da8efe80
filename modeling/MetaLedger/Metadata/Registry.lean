import MetaLedger.Scale.Codec

/-!
# The types of a runtime

A runtime's metadata lists the types it uses, each with a definition that refers to others by their
number. What stands at a position of the list is looked up by that position, whatever number the
entry itself carries.
-/

namespace MetaLedger.Metadata

open Scale (Codec Reader)

/-- The number of a type. -/
abbrev TypeId := UInt32

/-- A field of a record or of an alternative. -/
structure Field where
  name : Option String
  type : TypeId
  typeName : Option String
  docs : List String
deriving DecidableEq

/-- An alternative of an enum. -/
structure Variant where
  name : String
  fields : List Field
  index : UInt8
  docs : List String
deriving DecidableEq

/-- The primitive types, in the order of their marks. -/
inductive Primitive where
  | bool
  | char
  | str
  | u8
  | u16
  | u32
  | u64
  | u128
  | u256
  | i8
  | i16
  | i32
  | i64
  | i128
  | i256
deriving DecidableEq

/-- What a type is made of. -/
inductive TypeDef where
  | composite (fields : List Field)
  | variant (variants : List Variant)
  | sequence (item : TypeId)
  | array (length : UInt32) (item : TypeId)
  | tuple (items : List TypeId)
  | primitive (kind : Primitive)
  | compact (inner : TypeId)
  | bitSequence (store order : TypeId)
deriving DecidableEq

/-- A parameter of a generic type. -/
structure TypeParameter where
  name : String
  type : Option TypeId
deriving DecidableEq

/-- A type with the number it carries. -/
structure TypeEntry where
  id : TypeId
  path : List String
  parameters : List TypeParameter
  definition : TypeDef
  docs : List String
deriving DecidableEq

/-- The list of types. -/
abbrev Registry := List TypeEntry

/-- The type at a position. -/
def Registry.resolve? (r : Registry) (id : TypeId) : Option TypeEntry := r[id.toNat]?

/-- What the type at a position is made of. -/
def Registry.definition? (r : Registry) (id : TypeId) : Option TypeDef :=
  (r.resolve? id).map TypeEntry.definition

/-! ## Written forms -/

def typeId : Codec TypeId := Codec.compactWord

/-- The lines of a comment. -/
def comments : Codec (List String) := Codec.text.list

def Field.codec : Codec Field :=
  (Codec.text.option.pair <| typeId.pair <| Codec.text.option.pair comments).iso
    (fun (name, type, typeName, docs) => ⟨name, type, typeName, docs⟩)
    (fun f => (f.name, f.type, f.typeName, f.docs))

def Variant.codec : Codec Variant :=
  (Codec.text.pair <| Field.codec.list.pair <| Codec.byte.pair comments).iso
    (fun (name, fields, index, docs) => ⟨name, fields, index, docs⟩)
    (fun v => (v.name, v.fields, v.index, v.docs))

namespace Primitive

/-- The primitive types by their marks. -/
def all : List Primitive :=
  [bool, char, str, u8, u16, u32, u64, u128, u256, i8, i16, i32, i64, i128, i256]

def mark (p : Primitive) : UInt8 := UInt8.ofNat (all.idxOf p)

def codec : Codec Primitive where
  encode p := [p.mark]
  read := do
    match all[(← Reader.byte).toNat]? with
    | some p => return p
    | none => Reader.fail (.unknownVariant "TypeDefPrimitive")
  Fits _ := True

end Primitive

namespace TypeDef

def compositeCodec : Codec (List Field) := Field.codec.list
def variantCodec : Codec (List Variant) := Variant.codec.list
def arrayCodec : Codec (UInt32 × TypeId) := Codec.word.pair typeId
def tupleCodec : Codec (List TypeId) := typeId.list
def bitSequenceCodec : Codec (TypeId × TypeId) := typeId.pair typeId

def encode : TypeDef → Bytes
  | composite fields => 0 :: compositeCodec.encode fields
  | variant variants => 1 :: variantCodec.encode variants
  | sequence item => 2 :: typeId.encode item
  | array length item => 3 :: arrayCodec.encode (length, item)
  | tuple items => 4 :: tupleCodec.encode items
  | primitive kind => 5 :: Primitive.codec.encode kind
  | compact inner => 6 :: typeId.encode inner
  | bitSequence store order => 7 :: bitSequenceCodec.encode (store, order)

def read : Reader TypeDef := do
  match ← Reader.byte with
  | 0 => return composite (← compositeCodec.read)
  | 1 => return variant (← variantCodec.read)
  | 2 => return sequence (← typeId.read)
  | 3 =>
    let (length, item) ← arrayCodec.read
    return array length item
  | 4 => return tuple (← tupleCodec.read)
  | 5 => return primitive (← Primitive.codec.read)
  | 6 => return compact (← typeId.read)
  | 7 =>
    let (store, order) ← bitSequenceCodec.read
    return bitSequence store order
  | _ => Reader.fail (.unknownVariant "TypeDef")

def Fits : TypeDef → Prop
  | composite fields => compositeCodec.Fits fields
  | variant variants => variantCodec.Fits variants
  | tuple items => tupleCodec.Fits items
  | _ => True

def codec : Codec TypeDef := ⟨encode, read, Fits⟩

end TypeDef

def TypeParameter.codec : Codec TypeParameter :=
  (Codec.text.pair typeId.option).iso
    (fun (name, type) => ⟨name, type⟩) (fun p => (p.name, p.type))

def TypeEntry.codec : Codec TypeEntry :=
  (typeId.pair <| Codec.text.list.pair <| TypeParameter.codec.list.pair <|
    TypeDef.codec.pair comments).iso
    (fun (id, path, parameters, definition, docs) => ⟨id, path, parameters, definition, docs⟩)
    (fun t => (t.id, t.path, t.parameters, t.definition, t.docs))

def Registry.codec : Codec Registry := TypeEntry.codec.list

end MetaLedger.Metadata
