import MetaLedger.Metadata.Registry

/-!
# Pallets in metadata

What a runtime's metadata says of a pallet: its storage, the enums of its calls, events and errors,
its constants and its position. The later format adds comments at the end; apart from them both
formats write a pallet alike.
-/

namespace MetaLedger.Metadata

open Scale (Codec Reader)

/-- Whether a storage item has a value where none is stored. -/
inductive Modifier where
  | optional
  | default
deriving DecidableEq

/-- How a part of a map's key is digested. -/
inductive Hasher where
  | blake2b128
  | blake2b256
  | blake2b128Concat
  | twox128
  | twox256
  | twox64Concat
  | identity
deriving DecidableEq

/-- A plain value, or a map. -/
inductive StorageType where
  | plain (value : TypeId)
  | map (hashers : List Hasher) (key value : TypeId)
deriving DecidableEq

structure StorageEntry where
  name : String
  modifier : Modifier
  type : StorageType
  default : Bytes
  docs : List String
deriving DecidableEq

/-- The storage of a pallet, under the name it is filed by. -/
structure PalletStorage where
  filedBy : String
  entries : List StorageEntry
deriving DecidableEq

structure Constant where
  name : String
  type : TypeId
  value : Bytes
  docs : List String
deriving DecidableEq

/-- A pallet. The earlier format has no comments on it. -/
structure Pallet where
  name : String
  storage : Option PalletStorage
  calls : Option TypeId
  event : Option TypeId
  constants : List Constant
  error : Option TypeId
  index : UInt8
  docs : List String := []
deriving DecidableEq

/-! ## Written forms -/

namespace Modifier

def codec : Codec Modifier where
  encode
    | optional => [0]
    | default => [1]
  read := do
    match ← Reader.byte with
    | 0 => return optional
    | 1 => return default
    | _ => Reader.fail (.unknownVariant "StorageEntryModifier")
  Fits _ := True

end Modifier

namespace Hasher

/-- The hashers by their marks. -/
def all : List Hasher :=
  [blake2b128, blake2b256, blake2b128Concat, twox128, twox256, twox64Concat, identity]

def mark (h : Hasher) : UInt8 := UInt8.ofNat (all.idxOf h)

def codec : Codec Hasher where
  encode h := [h.mark]
  read := do
    match all[(← Reader.byte).toNat]? with
    | some h => return h
    | none => Reader.fail (.unknownVariant "StorageHasher")
  Fits _ := True

end Hasher

namespace StorageType

def mapCodec : Codec (List Hasher × TypeId × TypeId) :=
  Hasher.codec.list.pair <| typeId.pair typeId

def codec : Codec StorageType where
  encode
    | plain value => 0 :: typeId.encode value
    | map hashers key value => 1 :: mapCodec.encode (hashers, key, value)
  read := do
    match ← Reader.byte with
    | 0 => return plain (← typeId.read)
    | 1 =>
      let (hashers, key, value) ← mapCodec.read
      return map hashers key value
    | _ => Reader.fail (.unknownVariant "StorageEntryType")
  Fits
    | plain _ => True
    | map hashers key value => mapCodec.Fits (hashers, key, value)

end StorageType

def StorageEntry.codec : Codec StorageEntry :=
  (Codec.text.pair <| Modifier.codec.pair <| StorageType.codec.pair <| Codec.bytes.pair comments).iso
    (fun (name, modifier, type, default, docs) => ⟨name, modifier, type, default, docs⟩)
    (fun e => (e.name, e.modifier, e.type, e.default, e.docs))

def PalletStorage.codec : Codec PalletStorage :=
  (Codec.text.pair StorageEntry.codec.list).iso
    (fun (filedBy, entries) => ⟨filedBy, entries⟩) (fun s => (s.filedBy, s.entries))

def Constant.codec : Codec Constant :=
  (Codec.text.pair <| typeId.pair <| Codec.bytes.pair comments).iso
    (fun (name, type, value, docs) => ⟨name, type, value, docs⟩)
    (fun c => (c.name, c.type, c.value, c.docs))

namespace Pallet

/-- A pallet without its comments. -/
abbrev Body :=
  String × Option PalletStorage × Option TypeId × Option TypeId × List Constant × Option TypeId × UInt8

def bodyCodec : Codec Body :=
  Codec.text.pair <| PalletStorage.codec.option.pair <| typeId.option.pair <| typeId.option.pair <|
    Constant.codec.list.pair <| typeId.option.pair Codec.byte

def body (p : Pallet) : Body :=
  (p.name, p.storage, p.calls, p.event, p.constants, p.error, p.index)

def ofBody : Body → List String → Pallet
  | (name, storage, calls, event, constants, error, index), docs =>
    ⟨name, storage, calls, event, constants, error, index, docs⟩

/-- A pallet in format 14: without comments. -/
def codec14 : Codec Pallet :=
  let c := bodyCodec.iso (ofBody · []) body
  { c with Fits := fun p => c.Fits p ∧ p.docs = [] }

/-- A pallet in format 15: the comments at the end. -/
def codec15 : Codec Pallet :=
  (bodyCodec.pair comments).iso (fun (body, docs) => ofBody body docs)
    (fun p => (p.body, p.docs))

end Pallet

end MetaLedger.Metadata
