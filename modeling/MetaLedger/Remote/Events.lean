import MetaLedger.Metadata.Extent
import MetaLedger.Node.Request
import MetaLedger.Remote.Refusal

/-!
# The events of a block

What a block's events say of one of its transactions: the first failure that is named for it, and
success if there is none. Events are read one by one by the types of the runtime, and those behind
the failure are not looked at. The reason of a failure is found by name in the metadata.
-/

namespace MetaLedger.Remote

open Metadata (Registry Pallet Variant)
open Scale (Reader)

/-- What is kept of a runtime's metadata to read events. -/
structure RuntimeTypes where
  types : Registry
  pallets : List Pallet

namespace RuntimeTypes

/-- Reads metadata of a format whose events are known. -/
def ofMetadata? (metadata : Bytes) : Option RuntimeTypes :=
  match Metadata.markedCodec.read metadata with
  | .ok ((mark, .format14 m), _) =>
    if mark = Metadata.magic then some ⟨m.types, m.pallets⟩ else none
  | .ok ((mark, .format15 m), _) =>
    if mark = Metadata.magic then some ⟨m.types, m.pallets⟩ else none
  | _ => none

/-- The pallet at a position. -/
def pallet? (m : RuntimeTypes) (index : UInt8) : Option Pallet :=
  m.pallets.find? (·.index = index)

/-- An alternative of an enum that metadata names by its type. -/
def variant? (m : RuntimeTypes) (enum : Option Metadata.TypeId) (index : UInt8) :
    Option Variant := do
  match (← m.types.resolve? (← enum)).definition with
  | .variant variants => variants.find? (·.index = index)
  | _ => none

end RuntimeTypes

/-- When an event happened. -/
inductive Phase where
  /-- While the transaction at a position of the block was executed. -/
  | extrinsic (index : Nat)
  | finalization
  | initialization
deriving DecidableEq

/-- An event of a block. -/
structure ChainEvent where
  phase : Phase
  pallet : String
  name : String
  fields : Bytes
deriving DecidableEq

def Phase.read : Reader Phase := do
  match ← Reader.byte with
  | 0 => return extrinsic (← Reader.natLE 4)
  | 1 => return finalization
  | 2 => return initialization
  | _ => Reader.fail (.unknownVariant "Phase")

/-- Reads an event: when it happened, what it is, its fields and its topics. -/
def ChainEvent.read (m : RuntimeTypes) : Reader ChainEvent := do
  let phase ← Phase.read
  let palletIndex ← Reader.byte
  let index ← Reader.byte
  match m.pallet? palletIndex with
  | none => Reader.fail (.unknownVariant "Pallet")
  | some pallet =>
    match m.variant? pallet.event index with
    | none => Reader.fail (.unknownVariant "Event")
    | some v =>
      let fields ← m.types.fieldBytes v.fields
      let _ ← Scale.list (Reader.fixed 32)
      return ⟨phase, pallet.name, v.name, fields⟩

/-- The event by which a transaction is known to have failed. -/
def ChainEvent.isFailureOf (e : ChainEvent) (position : Nat) : Bool :=
  e.phase = .extrinsic position && e.pallet = "System" && e.name = "ExtrinsicFailed"

/-- The fields of the first failure of a transaction among some events. -/
def firstFailure (m : RuntimeTypes) (position : Nat) : Nat → Bytes →
    Except Scale.Error (Option Bytes)
  | 0, _ => .ok none
  | count + 1, input =>
    match ChainEvent.read m input with
    | .error e => .error e
    | .ok (e, rest) =>
      if e.isFailureOf position then .ok (some e.fields) else firstFailure m position count rest

/-- The fields of the first failure of a transaction in a block; no events can be counted where no
number stands in front. -/
def failureIn (m : RuntimeTypes) (position : Nat) (events : Bytes) :
    Except Scale.Error (Option Bytes) :=
  match Scale.compact .u32 events with
  | .ok (count, rest) => firstFailure m position count rest
  | .error _ => .ok none

/-! ## The reason of a failure -/

/-- What the library that watches transactions says of the failures that it finds itself. -/
structure Wording where
  /-- Of metadata that it cannot read. -/
  unreadableMetadata : String
  /-- Of events that it cannot read. -/
  unreadableEvents : Scale.Error → String
  /-- Of a block that does not hold the transaction. -/
  missingTransaction : String
  /-- Of a status that it does not know. -/
  unknownStatus : String
  /-- Of a failed transaction, by the fields of its failure, if these point at no error of a pallet. -/
  failedTransaction : Bytes → String
deriving Inhabited

/-- The path of the type of failures. -/
def failurePath : List String := ["sp_runtime", "DispatchError"]

/-- The position of the pallet that refused, and that of its error. -/
def moduleError? (m : RuntimeTypes) (fields : Bytes) : Option (UInt8 × UInt8) := do
  let entry ← m.types.find? (·.path = failurePath)
  let .variant variants := entry.definition | none
  let index :: rest := fields | none
  let v ← variants.find? (·.index = index)
  if v.name ≠ "Module" then none
  else
    match m.types.fieldBytes v.fields rest with
    | .ok ([pallet, error], _) => some (pallet, error)
    | .ok ([pallet, error, _, _, _], _) => some (pallet, error)
    | _ => none

/-- The reason in the fields of a failure: the name of a pallet's error. -/
def reasonOf (w : Wording) (m : RuntimeTypes) (fields : Bytes) : Except Node.Error DispatchError :=
  match moduleError? m fields with
  | none => .error (errorOfMessage (w.failedTransaction fields))
  | some (palletIndex, index) =>
    match m.pallet? palletIndex with
    | none => .error (.decode (.errorPalletMissing palletIndex))
    | some pallet =>
      match m.variant? pallet.error index with
      | none => .error (.decode (.errorVariantMissing index))
      | some v => .ok (DispatchError.ofName v.name)

/-- How a transaction ended by the events of its block, if there are any. -/
def outcomeOf (w : Wording) (m : RuntimeTypes) (position : Nat) :
    Option Bytes → Except Node.Error Outcome
  | none => .ok .success
  | some events =>
    match failureIn m position events with
    | .error e => .error (errorOfMessage (w.unreadableEvents e))
    | .ok none => .ok .success
    | .ok (some fields) =>
      match reasonOf w m fields with
      | .ok reason => .ok (.failed reason)
      | .error e => .error e

end MetaLedger.Remote
