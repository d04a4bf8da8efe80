import MetaLedger.Digest.Blake2b
import MetaLedger.Digest.XxHash64
import MetaLedger.Record

/-!
# Storage addresses

Where a ledger files records and accounts. An address is the digest of a pallet's and an item's
name, and then the parts of the key: for a record the namespace, behind its digest, and the key,
both with their lengths; for an account its id, behind its digest. Because each part carries its
length, an address is that of one namespace and key only.
-/

namespace MetaLedger

/-- An address in a ledger's storage. -/
abbrev Address := Bytes

namespace Address

/-- The largest part of a key, in bytes. -/
def maxComponent : Nat := UInt32.size - 1

/-- The digests of a pallet's and an item's name. -/
def storagePrefix (pallet item : String) : Fixed 32 :=
  ⟨(Digest.twox128 (Bytes.ofString pallet)).toList ++ (Digest.twox128 (Bytes.ofString item)).toList,
    by simp [Fixed.length_eq]⟩

end Address

/-- Where the records and the accounts of a layout are filed. -/
structure StorageKeys where
  records : Fixed 32
  accounts : Fixed 32
deriving DecidableEq

namespace StorageKeys

def ofLayout (layout : Layout) : StorageKeys :=
  ⟨Address.storagePrefix layout.pallet layout.storageItem,
    Address.storagePrefix layout.systemPallet layout.accountItem⟩

/-- A part of a key behind its digest. -/
def hashed (part : Bytes) : Bytes := (Digest.blake2b128 part).toList ++ part

/-- What all addresses of a namespace begin with. -/
def namespaceAddress (keys : StorageKeys) (ns : Bytes) : Address :=
  keys.records.toList ++ hashed (Scale.encodeBytes ns)

/-- The address of a record whose parts are short enough to have one. -/
def recordAddress (keys : StorageKeys) (ns key : Bytes) : Address :=
  keys.namespaceAddress ns ++ Scale.encodeBytes key

/-- The address of an account's state. -/
def accountAddress (keys : StorageKeys) (account : AccountId) : Address :=
  keys.accounts.toList ++ hashed account.bytes

/-- Refuses a part that is too long for its length to be written. -/
def checkComponent (name : String) (part : Bytes) : Except Failure Unit :=
  if part.length ≤ Address.maxComponent then .ok ()
  else .error (.addressDerivation (.componentTooLong name part.length))

/-- What all addresses of a namespace begin with, if it is short enough to have some. -/
def namespacePrefix (keys : StorageKeys) (ns : Bytes) : Except Failure Address := do
  checkComponent "namespace" ns
  return keys.namespaceAddress ns

/-- The address of a record; the key is checked before the namespace. -/
def deriveAddress (keys : StorageKeys) (ns key : Bytes) : Except Failure Address := do
  checkComponent "key" key
  checkComponent "namespace" ns
  return keys.recordAddress ns key

/-- The key of an address under a namespace's prefix. -/
def recoverKey (start address : Address) : Except Failure Bytes :=
  match Bytes.dropPrefix? start address with
  | none => .error (.prefixMismatch (Hex.encode start) (Hex.encode address))
  | some rest =>
    match Scale.decodeBytes rest with
    | .ok key => .ok key
    | .error e => .error (.codec e)

end StorageKeys

end MetaLedger
