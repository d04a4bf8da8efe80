import MetaLedger.Identity
import MetaLedger.Json.Fields
import MetaLedger.Schema

/-!
# Chains and layouts in JSON

The JSON forms of hashes, versions, layouts, positions and schemas. Layouts and positions have a
default for every field; versions and schemas have none.
-/

namespace MetaLedger

open Json (Fields)

namespace BlockHash

/-- A hash is an array of its bytes. -/
def toJson (h : BlockHash) : Json := .array (h.bytes.map fun b => Json.ofNat b.toNat)

def fromJson? (value : Json) : Option BlockHash := do
  let bytes ← Json.list? Json.uint8? value
  BlockHash.mk <$> Fixed.ofList? 32 bytes

end BlockHash

namespace RuntimeVersion

def toJson (v : RuntimeVersion) : Json :=
  Json.record [("specVersion", Json.ofNat v.spec.toNat),
    ("transactionVersion", Json.ofNat v.transaction.toNat)]

def fromJson? (value : Json) : Option RuntimeVersion := do
  let fields ← Json.fields? ["specVersion", "transactionVersion"] value
  return {
    spec := ← fields.required "specVersion" Json.uint32?
    transaction := ← fields.required "transactionVersion" Json.uint32? }

end RuntimeVersion

namespace Layout

def toJson (l : Layout) : Json :=
  Json.record [("pallet", Json.ofString l.pallet), ("storage_item", Json.ofString l.storageItem),
    ("set_call", Json.ofString l.setCall), ("delete_call", Json.ofString l.deleteCall),
    ("update_call", Json.ofString l.updateCall), ("system_pallet", Json.ofString l.systemPallet),
    ("account_item", Json.ofString l.accountItem)]

def fromJson? (value : Json) : Option Layout := do
  let fields ← Json.fields? ["pallet", "storage_item", "set_call", "delete_call", "update_call",
    "system_pallet", "account_item"] value
  let d : Layout := {}
  return {
    pallet := ← fields.optional "pallet" Json.string? d.pallet
    storageItem := ← fields.optional "storage_item" Json.string? d.storageItem
    setCall := ← fields.optional "set_call" Json.string? d.setCall
    deleteCall := ← fields.optional "delete_call" Json.string? d.deleteCall
    updateCall := ← fields.optional "update_call" Json.string? d.updateCall
    systemPallet := ← fields.optional "system_pallet" Json.string? d.systemPallet
    accountItem := ← fields.optional "account_item" Json.string? d.accountItem }

end Layout

namespace ModuleIndices

def toJson (m : ModuleIndices) : Json :=
  Json.record [("system_pallet", Json.ofNat m.systemPallet.toNat),
    ("pallet", Json.ofNat m.pallet.toNat), ("set_call", Json.ofNat m.setCall.toNat),
    ("delete_call", Json.ofNat m.deleteCall.toNat), ("update_call", Json.ofNat m.updateCall.toNat)]

def fromJson? (value : Json) : Option ModuleIndices := do
  let fields ← Json.fields? ["system_pallet", "pallet", "set_call", "delete_call", "update_call"]
    value
  let d : ModuleIndices := {}
  return {
    systemPallet := ← fields.optional "system_pallet" Json.uint8? d.systemPallet
    pallet := ← fields.optional "pallet" Json.uint8? d.pallet
    setCall := ← fields.optional "set_call" Json.uint8? d.setCall
    deleteCall := ← fields.optional "delete_call" Json.uint8? d.deleteCall
    updateCall := ← fields.optional "update_call" Json.uint8? d.updateCall }

end ModuleIndices

namespace CallSchema

def toJson (c : CallSchema) : Json :=
  Json.record [("name", Json.ofString c.name), ("index", Json.ofNat c.index.toNat)]

def fromJson? (value : Json) : Option CallSchema := do
  let fields ← Json.fields? ["name", "index"] value
  return {
    name := ← fields.required "name" Json.string?
    index := ← fields.required "index" Json.uint8? }

end CallSchema

namespace PalletSchema

def toJson (p : PalletSchema) : Json :=
  Json.record [("name", Json.ofString p.name), ("index", Json.ofNat p.index.toNat),
    ("calls", .array (p.calls.map CallSchema.toJson)),
    ("storage", .array (p.storage.map Json.ofString))]

def fromJson? (value : Json) : Option PalletSchema := do
  let fields ← Json.fields? ["name", "index", "calls", "storage"] value
  return {
    name := ← fields.required "name" Json.string?
    index := ← fields.required "index" Json.uint8?
    calls := ← fields.required "calls" (Json.list? CallSchema.fromJson?)
    storage := ← fields.required "storage" (Json.list? Json.string?) }

end PalletSchema

namespace RuntimeSchema

def toJson (s : RuntimeSchema) : Json :=
  Json.record [("metadata", .array (s.metadata.map fun b => Json.ofNat b.toNat)),
    ("pallets", .array (s.pallets.map PalletSchema.toJson))]

def fromJson? (value : Json) : Option RuntimeSchema := do
  let fields ← Json.fields? ["metadata", "pallets"] value
  return {
    metadata := ← fields.required "metadata" (Json.list? Json.uint8?)
    pallets := ← fields.required "pallets" (Json.list? PalletSchema.fromJson?) }

end RuntimeSchema

end MetaLedger
