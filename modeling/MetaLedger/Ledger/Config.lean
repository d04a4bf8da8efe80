import MetaLedger.Json.Chain

/-!
# How a ledger is set up
-/

namespace MetaLedger.Ledger

/-- When accepted transactions are put into blocks. -/
inductive SealMode where
  /-- As soon as one is ready. -/
  | instant
  /-- When asked to. -/
  | manual
deriving DecidableEq

/-- How a ledger is set up. -/
structure Config where
  /-- The chain's name, of which the genesis hash is the digest. -/
  chain : String := "dev"
  sealMode : SealMode := .instant
  /-- The versions that signatures have to commit to. -/
  version : RuntimeVersion := ⟨100, 1⟩
  /-- Accounts without free balance may not send. -/
  requireFunded : Bool := false
  layout : Layout := {}
  indices : ModuleIndices := {}
  /-- How many recent states stay readable; at least one does. -/
  stateHistory : Nat := 256
deriving DecidableEq

instance : Inhabited Config := ⟨{}⟩

namespace SealMode

def toJson : SealMode → Json
  | instant => Json.ofString "instant"
  | manual => Json.ofString "manual"

def fromJson? : Json → Option SealMode := Json.choice? [("instant", instant), ("manual", manual)]

end SealMode

namespace Config

def toJson (c : Config) : Json :=
  Json.record [("chain", Json.ofString c.chain), ("seal_mode", c.sealMode.toJson),
    ("runtime_version", c.version.toJson), ("require_funded_accounts", .bool c.requireFunded),
    ("layout", c.layout.toJson), ("indices", c.indices.toJson),
    ("state_history", Json.ofNat c.stateHistory)]

def fromJson? (value : Json) : Option Config := do
  let fields ← Json.fields? ["chain", "seal_mode", "runtime_version", "require_funded_accounts",
    "layout", "indices", "state_history"] value
  let d : Config := {}
  return {
    chain := ← fields.optional "chain" Json.string? d.chain
    sealMode := ← fields.optional "seal_mode" SealMode.fromJson? d.sealMode
    version := ← fields.optional "runtime_version" RuntimeVersion.fromJson? d.version
    requireFunded := ← fields.optional "require_funded_accounts" Json.bool? d.requireFunded
    layout := ← fields.optional "layout" Layout.fromJson? d.layout
    indices := ← fields.optional "indices" ModuleIndices.fromJson? d.indices
    stateHistory := ← fields.optional "state_history" (Json.natBelow? UInt64.size) d.stateHistory }

end Config

end MetaLedger.Ledger
