import MetaLedger.Failure

/-!
# The schema of a runtime

What a runtime declares, as far as names are looked up in it: pallets with their positions, calls
and storage items. Where a name is declared twice, the first one counts.
-/

namespace MetaLedger

/-- A call of a pallet. -/
structure CallSchema where
  name : String
  index : UInt8
deriving DecidableEq

/-- A pallet with its calls and storage items. -/
structure PalletSchema where
  name : String
  index : UInt8
  calls : List CallSchema
  storage : List String
deriving DecidableEq

/-- What a runtime declares, and the metadata it was read from. -/
structure RuntimeSchema where
  metadata : Bytes
  pallets : List PalletSchema
deriving DecidableEq

namespace RuntimeSchema

/-- The first pallet of a name. -/
def pallet? (s : RuntimeSchema) (name : String) : Option PalletSchema :=
  s.pallets.find? (·.name == name)

def callIndex (s : RuntimeSchema) (pallet call : String) : Except Failure CallIndex :=
  match s.pallet? pallet with
  | none => .error (.unknownPallet pallet)
  | some p =>
    match p.calls.find? (·.name == call) with
    | none => .error (.unknownCall pallet call)
    | some c => .ok ⟨p.index, c.index⟩

def ensureStorage (s : RuntimeSchema) (pallet item : String) : Except Failure Unit :=
  match s.pallet? pallet with
  | none => .error (.unknownPallet pallet)
  | some p =>
    if p.storage.contains item then .ok () else .error (.unknownStorage pallet item)

end RuntimeSchema

/-- The schema of a runtime of our own, with the two modules at the given positions. -/
def ModuleIndices.schema (m : ModuleIndices) (metadata : Bytes) (layout : Layout) :
    RuntimeSchema :=
  ⟨metadata,
    [⟨layout.systemPallet, m.systemPallet, [], [layout.accountItem]⟩,
     ⟨layout.pallet, m.pallet,
      [⟨layout.setCall, m.setCall⟩, ⟨layout.deleteCall, m.deleteCall⟩,
       ⟨layout.updateCall, m.updateCall⟩],
      [layout.storageItem]⟩]⟩

end MetaLedger
