import MetaLedger.Json.Chain
import MetaLedger.Store.Error

/-!
# How a store behaves

When a write counts as done, what an account unknown to the ledger means, and how many keys are asked
for at once. `validate` refuses the values that mean nothing.
-/

namespace MetaLedger.Store

/-- When a write is reported as done. -/
inductive SubmissionMode where
  /-- When the pool has accepted the transaction. -/
  | pool
  /-- When the transaction is in a block and its call succeeded. -/
  | inBlock
deriving DecidableEq

/-- What it means that the ledger knows nothing of the signer's account. -/
inductive AbsentAccount where
  /-- Its nonce is zero. -/
  | assumeZero
  /-- It may not write. -/
  | reject
deriving DecidableEq

/-- How a store behaves. -/
structure Config where
  layout : Layout := {}
  submission : SubmissionMode := .pool
  absentAccount : AbsentAccount := .assumeZero
  pageSize : UInt32 := 256
deriving DecidableEq

instance : Inhabited Config := ⟨{}⟩

namespace SubmissionMode

def toJson : SubmissionMode → Json
  | pool => Json.ofString "pool"
  | inBlock => Json.ofString "in_block"

def fromJson? : Json → Option SubmissionMode :=
  Json.choice? [("pool", pool), ("in_block", inBlock)]

end SubmissionMode

namespace AbsentAccount

def toJson : AbsentAccount → Json
  | assumeZero => Json.ofString "assume_zero"
  | reject => Json.ofString "reject"

def fromJson? : Json → Option AbsentAccount :=
  Json.choice? [("assume_zero", assumeZero), ("reject", reject)]

end AbsentAccount

namespace Config

/-- Refuses a page size of zero, and then the first empty name among those that addresses depend
on. -/
def validate (c : Config) : Except Error Unit :=
  if c.pageSize = 0 then .error ⟨.config .pageSize, none⟩
  else
    let names := [("pallet", c.layout.pallet), ("storage_item", c.layout.storageItem),
      ("system_pallet", c.layout.systemPallet), ("account_item", c.layout.accountItem)]
    match names.find? fun (_, name) => name.isEmpty with
    | some (field, _) => .error ⟨.config (.emptyName field), none⟩
    | none => .ok ()

def toJson (c : Config) : Json :=
  Json.record [("layout", c.layout.toJson), ("submission", c.submission.toJson),
    ("absent_account", c.absentAccount.toJson), ("key_page_size", Json.ofNat c.pageSize.toNat)]

def fromJson? (value : Json) : Option Config := do
  let fields ← Json.fields? ["layout", "submission", "absent_account", "key_page_size"] value
  let d : Config := {}
  return {
    layout := ← fields.optional "layout" Layout.fromJson? d.layout
    submission := ← fields.optional "submission" SubmissionMode.fromJson? d.submission
    absentAccount := ← fields.optional "absent_account" AbsentAccount.fromJson? d.absentAccount
    pageSize := ← fields.optional "key_page_size" Json.uint32? d.pageSize }

end Config

end MetaLedger.Store
