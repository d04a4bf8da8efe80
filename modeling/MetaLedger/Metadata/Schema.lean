import MetaLedger.Metadata.Format
import MetaLedger.Node.Error
import MetaLedger.Schema

/-!
# The schema in metadata

What names are looked up in, taken from a runtime's metadata: for each pallet its position, the
alternatives of its call enum with their positions, and the names of its storage items.
-/

namespace MetaLedger.Metadata

/-- The calls of a pallet: the alternatives of the enum at the position of its call type. -/
def callSchemas (types : Registry) (pallet : String) : Option TypeId →
    Except Node.Error (List CallSchema)
  | none => .ok []
  | some id =>
    match types.resolve? id with
    | none => .error (.decode (.callTypeMissing pallet id.toNat))
    | some entry =>
      match entry.definition with
      | .variant variants => .ok (variants.map fun v => ⟨v.name, v.index⟩)
      | _ => .error (.decode (.callTypeNoEnum pallet))

def storageNames : Option PalletStorage → List String
  | none => []
  | some storage => storage.entries.map (·.name)

def palletSchema (types : Registry) (p : Pallet) : Except Node.Error PalletSchema :=
  match callSchemas types p.name p.calls with
  | .ok calls => .ok ⟨p.name, p.index, calls, storageNames p.storage⟩
  | .error e => .error e

/-- The pallets of metadata, in their order; the first one without its calls decides. -/
def palletSchemas (types : Registry) : List Pallet → Except Node.Error (List PalletSchema)
  | [] => .ok []
  | p :: rest =>
    match palletSchema types p with
    | .error e => .error e
    | .ok schema =>
      match palletSchemas types rest with
      | .error e => .error e
      | .ok schemas => .ok (schema :: schemas)

/-- The pallets of metadata of a known format. -/
def Versioned.pallets : Versioned → Except Node.Error (List PalletSchema)
  | .earlier .. => .error (.unsupported .oldMetadata)
  | .format14 m => palletSchemas m.types m.pallets
  | .format15 m => palletSchemas m.types m.pallets

/-- The schema in marked metadata, which is kept with it as it came. -/
def decodeSchema (metadata : Bytes) : Except Node.Error RuntimeSchema :=
  match markedCodec.read metadata with
  | .error _ => .error (.decode .unreadableMetadata)
  | .ok ((mark, versioned), _) =>
    if mark = magic then
      match versioned.pallets with
      | .ok pallets => .ok ⟨metadata, pallets⟩
      | .error e => .error e
    else .error (.decode (.badMagic mark))

end MetaLedger.Metadata
