import MetaLedger.Metadata.Pallet

/-!
# Runtime metadata

The metadata of a runtime behind its mark and version byte. Formats 14 and 15 are read in full;
formats 8 to 13 are known to be a byte sequence, formats before them and after 15 are not known.
The body is read before anyone looks at the mark, and what follows it is not looked at.
-/

namespace MetaLedger.Metadata

open Scale (Codec Reader)

/-- A signed extension of the transactions. -/
structure SignedExtension where
  identifier : String
  type : TypeId
  additional : TypeId
deriving DecidableEq

structure Format14 where
  types : Registry
  pallets : List Pallet
  extrinsicType : TypeId
  extrinsicVersion : UInt8
  extensions : List SignedExtension
  runtimeType : TypeId
deriving DecidableEq

structure ApiParameter where
  name : String
  type : TypeId
deriving DecidableEq

structure ApiMethod where
  name : String
  inputs : List ApiParameter
  output : TypeId
  docs : List String
deriving DecidableEq

structure Api where
  name : String
  methods : List ApiMethod
  docs : List String
deriving DecidableEq

/-- The enums over the calls, events and errors of all pallets. -/
structure OuterEnums where
  call : TypeId
  event : TypeId
  error : TypeId
deriving DecidableEq

structure CustomValue where
  name : String
  type : TypeId
  value : Bytes
deriving DecidableEq

structure Format15 where
  types : Registry
  pallets : List Pallet
  extrinsicVersion : UInt8
  addressType : TypeId
  callType : TypeId
  signatureType : TypeId
  extraType : TypeId
  extensions : List SignedExtension
  runtimeType : TypeId
  apis : List Api
  outerEnums : OuterEnums
  custom : List CustomValue
deriving DecidableEq

/-- The metadata of a runtime by its format. -/
inductive Versioned where
  /-- A format from 8 to 13, of which only the extent is known. -/
  | earlier (version : UInt8) (body : Bytes)
  | format14 (m : Format14)
  | format15 (m : Format15)
deriving DecidableEq

/-! ## Written forms -/

def SignedExtension.codec : Codec SignedExtension :=
  (Codec.text.pair <| typeId.pair typeId).iso
    (fun (identifier, type, additional) => ⟨identifier, type, additional⟩)
    (fun e => (e.identifier, e.type, e.additional))

def Format14.codec : Codec Format14 :=
  (Registry.codec.pair <| Pallet.codec14.list.pair <| typeId.pair <| Codec.byte.pair <|
    SignedExtension.codec.list.pair typeId).iso
    (fun (types, pallets, type, version, extensions, runtime) =>
      ⟨types, pallets, type, version, extensions, runtime⟩)
    (fun m => (m.types, m.pallets, m.extrinsicType, m.extrinsicVersion, m.extensions,
      m.runtimeType))

def ApiParameter.codec : Codec ApiParameter :=
  (Codec.text.pair typeId).iso (fun (name, type) => ⟨name, type⟩) (fun p => (p.name, p.type))

def ApiMethod.codec : Codec ApiMethod :=
  (Codec.text.pair <| ApiParameter.codec.list.pair <| typeId.pair comments).iso
    (fun (name, inputs, output, docs) => ⟨name, inputs, output, docs⟩)
    (fun m => (m.name, m.inputs, m.output, m.docs))

def Api.codec : Codec Api :=
  (Codec.text.pair <| ApiMethod.codec.list.pair comments).iso
    (fun (name, methods, docs) => ⟨name, methods, docs⟩)
    (fun a => (a.name, a.methods, a.docs))

def OuterEnums.codec : Codec OuterEnums :=
  (typeId.pair <| typeId.pair typeId).iso
    (fun (call, event, error) => ⟨call, event, error⟩) (fun o => (o.call, o.event, o.error))

def CustomValue.codec : Codec CustomValue :=
  (Codec.text.pair <| typeId.pair Codec.bytes).iso
    (fun (name, type, value) => ⟨name, type, value⟩) (fun c => (c.name, c.type, c.value))

def Format15.codec : Codec Format15 :=
  (Registry.codec.pair <| Pallet.codec15.list.pair <| Codec.byte.pair <| typeId.pair <|
    typeId.pair <| typeId.pair <| typeId.pair <| SignedExtension.codec.list.pair <| typeId.pair <|
    Api.codec.list.pair <| OuterEnums.codec.pair CustomValue.codec.list).iso
    (fun (types, pallets, version, address, call, signature, extra, extensions, runtime, apis,
        outer, custom) =>
      ⟨types, pallets, version, address, call, signature, extra, extensions, runtime, apis, outer,
        custom⟩)
    (fun m => (m.types, m.pallets, m.extrinsicVersion, m.addressType, m.callType,
      m.signatureType, m.extraType, m.extensions, m.runtimeType, m.apis, m.outerEnums, m.custom))

namespace Versioned

def encode : Versioned → Bytes
  | earlier version body => version :: Scale.encodeBytes body
  | format14 m => 14 :: Format14.codec.encode m
  | format15 m => 15 :: Format15.codec.encode m

def read : Reader Versioned := do
  let version ← Reader.byte
  if version = 14 then
    let m ← Format14.codec.read
    return format14 m
  else if version = 15 then
    let m ← Format15.codec.read
    return format15 m
  else if 8 ≤ version ∧ version < 14 then
    let body ← Scale.bytes
    return earlier version body
  else Reader.fail (.unknownVariant "RuntimeMetadata")

def Fits : Versioned → Prop
  | earlier version body => 8 ≤ version ∧ version < 14 ∧ body.length < UInt32.size
  | format14 m => Format14.codec.Fits m
  | format15 m => Format15.codec.Fits m

def codec : Codec Versioned := ⟨encode, read, Fits⟩

end Versioned

/-- The mark in front of metadata, the letters of "meta" least significant first. -/
def magic : UInt32 := 0x6174656d

/-- Metadata behind its mark. -/
def markedCodec : Codec (UInt32 × Versioned) := Codec.word.pair Versioned.codec

end MetaLedger.Metadata
