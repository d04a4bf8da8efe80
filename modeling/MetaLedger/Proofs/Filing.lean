import MetaLedger.Address
import MetaLedger.Proofs.Scale.Canonical

/-!
# Addresses under any digests

Nothing that makes addresses unambiguous is owed to the digests in them. `Digests` puts two arbitrary
functions in the place of the ones that ledgers use, of which only the size of their results is known;
with those of ledgers the addresses are the usual ones (`standard_keys`, `standard_filing`). `Filing`
gathers the functions that find addresses, and `Filing.Unambiguous` says what they are trusted with: a
record's address is that of one namespace and key (`injective`), lies under the prefix of its own
namespace only (`prefix_iff`), and gives back its key and nothing else does (`recoverKey_eq_ok_iff`).

The part of an address behind the digests is two byte sequences with their lengths. It is cut in one
way only, because no written form of a sequence is the beginning of another one.
-/

namespace MetaLedger

open Scale (encodeBytes)

theorem Fixed.eq_of_prefix {n : Nat} {a b : Fixed n} {bytes : Bytes} (ha : a.toList <+: bytes)
    (hb : b.toList <+: bytes) : a = b := by
  have hlength : a.toList.length = b.toList.length := a.length_eq.trans b.length_eq.symm
  refine Fixed.ext ?_
  rw [List.prefix_iff_eq_take.1 ha, List.prefix_iff_eq_take.1 hb, hlength]

/-! ## The functions that find addresses -/

structure Filing where
  /-- What the addresses of records begin with. -/
  records : Fixed 32
  /-- What the addresses of accounts begin with. -/
  accounts : Fixed 32
  namespacePrefix : Bytes → Except Failure Address
  deriveAddress : Bytes → Bytes → Except Failure Address
  accountAddress : AccountId → Address

def StorageKeys.filing (keys : StorageKeys) : Filing where
  records := keys.records
  accounts := keys.accounts
  namespacePrefix := keys.namespacePrefix
  deriveAddress := keys.deriveAddress
  accountAddress := keys.accountAddress

/-- The two digests that addresses are made with. -/
structure Digests where
  /-- Of the name of a pallet or an item. -/
  name : Bytes → Fixed 16
  /-- Of a part of a key. -/
  part : Bytes → Fixed 16

namespace Digests

variable (d : Digests)

/-- The digests that ledgers use. -/
def standard : Digests := ⟨Digest.twox128, Digest.blake2b128⟩

def storagePrefix (pallet item : String) : Fixed 32 :=
  ⟨(d.name (Bytes.ofString pallet)).toList ++ (d.name (Bytes.ofString item)).toList,
    by simp [Fixed.length_eq]⟩

def keys (layout : Layout) : StorageKeys :=
  ⟨d.storagePrefix layout.pallet layout.storageItem,
    d.storagePrefix layout.systemPallet layout.accountItem⟩

def hashed (part : Bytes) : Bytes := (d.part part).toList ++ part

def namespaceAddress (keys : StorageKeys) (ns : Bytes) : Address :=
  keys.records.toList ++ d.hashed (encodeBytes ns)

def recordAddress (keys : StorageKeys) (ns key : Bytes) : Address :=
  d.namespaceAddress keys ns ++ encodeBytes key

def accountAddress (keys : StorageKeys) (account : AccountId) : Address :=
  keys.accounts.toList ++ d.hashed account.bytes

def namespacePrefix (keys : StorageKeys) (ns : Bytes) : Except Failure Address := do
  StorageKeys.checkComponent "namespace" ns
  return d.namespaceAddress keys ns

def deriveAddress (keys : StorageKeys) (ns key : Bytes) : Except Failure Address := do
  StorageKeys.checkComponent "key" key
  StorageKeys.checkComponent "namespace" ns
  return d.recordAddress keys ns key

def filing (keys : StorageKeys) : Filing where
  records := keys.records
  accounts := keys.accounts
  namespacePrefix := d.namespacePrefix keys
  deriveAddress := d.deriveAddress keys
  accountAddress := d.accountAddress keys

theorem standard_keys (layout : Layout) : standard.keys layout = StorageKeys.ofLayout layout := rfl

theorem standard_filing (keys : StorageKeys) : standard.filing keys = keys.filing := rfl

/-! ## Telling addresses apart -/

variable {d : Digests} {keys : StorageKeys} {ns ns' key key' : Bytes}

theorem records_prefix_recordAddress (ns key : Bytes) :
    keys.records.toList <+: d.recordAddress keys ns key :=
  (List.prefix_append _ _).trans (List.prefix_append _ _)

theorem accounts_prefix_accountAddress (account : AccountId) :
    keys.accounts.toList <+: d.accountAddress keys account := List.prefix_append _ _

/-- No address under the records' digests is an account's. -/
theorem not_records_prefix (h : keys.records ≠ keys.accounts) (account : AccountId) :
    ¬keys.records.toList <+: d.accountAddress keys account := fun hprefix =>
  h (Fixed.eq_of_prefix hprefix (accounts_prefix_accountAddress account))

theorem recordAddress_ne_accountAddress (h : keys.records ≠ keys.accounts) (ns key : Bytes)
    (account : AccountId) : d.recordAddress keys ns key ≠ d.accountAddress keys account := by
  intro heq
  refine not_records_prefix (d := d) h account ?_
  rw [← heq]
  exact records_prefix_recordAddress ns key

theorem accountAddress_inj {a b : AccountId}
    (h : d.accountAddress keys a = d.accountAddress keys b) : a = b := by
  unfold accountAddress hashed at h
  have hdigests := List.append_cancel_left h
  have hlength : (d.part a.bytes).toList.length = (d.part b.bytes).toList.length := by
    rw [Fixed.length_eq, Fixed.length_eq]
  have hbytes := (List.append_inj hdigests hlength).2
  obtain ⟨a⟩ := a
  obtain ⟨b⟩ := b
  exact congrArg AccountId.mk (Fixed.ext hbytes)

/-- Behind the digests of a record's address stand namespace and key, each with its length. -/
theorem parts_of_namespaceAddress_append {x y : Bytes}
    (h : d.namespaceAddress keys ns ++ x = d.namespaceAddress keys ns' ++ y) :
    encodeBytes ns ++ x = encodeBytes ns' ++ y := by
  unfold namespaceAddress hashed at h
  simp only [List.append_assoc] at h
  have hdigests := List.append_cancel_left h
  refine (List.append_inj hdigests ?_).2
  rw [Fixed.length_eq, Fixed.length_eq]

theorem eq_of_namespaceAddress_prefix (hns : ns.length < UInt32.size)
    (hns' : ns'.length < UInt32.size)
    (h : d.namespaceAddress keys ns <+: d.recordAddress keys ns' key) : ns = ns' := by
  obtain ⟨rest, hrest⟩ := h
  exact (Scale.encodeBytes_append_inj hns hns' (parts_of_namespaceAddress_append hrest)).1

theorem recordAddress_inj (hns : ns.length < UInt32.size) (hns' : ns'.length < UInt32.size)
    (hkey : key.length < UInt32.size) (hkey' : key'.length < UInt32.size)
    (h : d.recordAddress keys ns key = d.recordAddress keys ns' key') : ns = ns' ∧ key = key' := by
  obtain ⟨rfl, hkeys⟩ :=
    Scale.encodeBytes_append_inj hns hns' (parts_of_namespaceAddress_append h)
  refine ⟨rfl, (Scale.encodeBytes_append_inj hkey hkey' (x := []) (y := []) ?_).1⟩
  rw [hkeys]

/-! ## Parts that are too long -/

theorem checkComponent_eq (name : String) (part : Bytes) :
    StorageKeys.checkComponent name part =
      if part.length < UInt32.size then .ok ()
      else .error (.addressDerivation (.componentTooLong name part.length)) := by
  have hsize : 0 < UInt32.size := by decide
  have hiff : part.length ≤ Address.maxComponent ↔ part.length < UInt32.size := by
    unfold Address.maxComponent
    omega
  unfold StorageKeys.checkComponent
  simp only [hiff]

theorem namespacePrefix_eq_ok_iff {start : Address} :
    d.namespacePrefix keys ns = .ok start ↔
      ns.length < UInt32.size ∧ start = d.namespaceAddress keys ns := by
  unfold namespacePrefix
  rw [checkComponent_eq]
  by_cases hns : ns.length < UInt32.size
  · rw [if_pos hns]
    constructor
    · intro h
      cases h
      exact ⟨hns, rfl⟩
    · rintro ⟨-, rfl⟩
      rfl
  · rw [if_neg hns]
    exact iff_of_false nofun fun h => hns h.1

theorem deriveAddress_eq_ok_iff {address : Address} :
    d.deriveAddress keys ns key = .ok address ↔
      ns.length < UInt32.size ∧ key.length < UInt32.size ∧ address = d.recordAddress keys ns key := by
  unfold deriveAddress
  rw [checkComponent_eq, checkComponent_eq]
  by_cases hkey : key.length < UInt32.size
  · by_cases hns : ns.length < UInt32.size
    · rw [if_pos hkey, if_pos hns]
      constructor
      · intro h
        cases h
        exact ⟨hns, hkey, rfl⟩
      · rintro ⟨-, -, rfl⟩
        rfl
    · rw [if_pos hkey, if_neg hns]
      exact iff_of_false nofun fun h => hns h.1
  · rw [if_neg hkey]
    exact iff_of_false nofun fun h => hkey h.2.1

/-! ## Keys of addresses -/

theorem recoverKey_eq_mismatch {start address : Address} (h : ¬start <+: address) :
    StorageKeys.recoverKey start address =
      .error (.prefixMismatch (Hex.encode start) (Hex.encode address)) := by
  unfold StorageKeys.recoverKey
  cases hrest : Bytes.dropPrefix? start address with
  | none => rfl
  | some rest => exact absurd ⟨rest, (Bytes.dropPrefix?_eq_some_iff.1 hrest).symm⟩ h

theorem recoverKey_append (start rest : Bytes) :
    StorageKeys.recoverKey start (start ++ rest) =
      match Scale.decodeBytes rest with
      | .ok key => .ok key
      | .error e => .error (.codec e) := by
  have hrest : Bytes.dropPrefix? start (start ++ rest) = some rest :=
    Bytes.dropPrefix?_eq_some_iff.2 rfl
  cases hread : Scale.decodeBytes rest with
  | error e => simp only [StorageKeys.recoverKey, hrest, hread]
  | ok key => simp only [StorageKeys.recoverKey, hrest, hread]

theorem recoverKey_eq_ok_iff {start address : Address} :
    StorageKeys.recoverKey start address = .ok key ↔
      key.length < UInt32.size ∧ address = start ++ encodeBytes key := by
  by_cases hprefix : start <+: address
  · obtain ⟨rest, rfl⟩ := hprefix
    rw [recoverKey_append, List.append_cancel_left_eq, ← Scale.decodeBytes_eq_ok_iff]
    cases Scale.decodeBytes rest with
    | error e => exact iff_of_false nofun nofun
    | ok found =>
      constructor <;> intro h <;> cases h <;> rfl
  · rw [recoverKey_eq_mismatch hprefix]
    refine iff_of_false nofun fun h => hprefix ?_
    rw [h.2]
    exact List.prefix_append _ _

/-- Under its prefix, an address gives its key or does not decode. -/
theorem recoverKey_of_prefix {start address : Address} (h : start <+: address) :
    (∃ key, StorageKeys.recoverKey start address = .ok key) ∨
      ∃ cause, StorageKeys.recoverKey start address = .error (.decoding cause) := by
  obtain ⟨rest, rfl⟩ := h
  rw [recoverKey_append]
  cases Scale.decodeBytes rest with
  | error e => exact .inr ⟨.codec e, rfl⟩
  | ok found => exact .inl ⟨found, rfl⟩

end Digests

/-! ## What addresses are trusted with -/

/-- An address is that of one thing, and tells of which. -/
structure Filing.Unambiguous (f : Filing) : Prop where
  /-- Short parts have an address. -/
  namespacePrefix_ok : ∀ ns, ns.length < UInt32.size → ∃ start, f.namespacePrefix ns = .ok start
  deriveAddress_ok : ∀ ns key, ns.length < UInt32.size → key.length < UInt32.size →
    ∃ address, f.deriveAddress ns key = .ok address
  injective : ∀ ns ns' key key' address, f.deriveAddress ns key = .ok address →
    f.deriveAddress ns' key' = .ok address → ns = ns' ∧ key = key'
  /-- A record's address begins with the prefix of its own namespace only. -/
  prefix_iff : ∀ ns ns' key start address, f.namespacePrefix ns' = .ok start →
    f.deriveAddress ns key = .ok address → (start <+: address ↔ ns = ns')
  /-- A key is recovered from the address of its record, and from no other bytes. -/
  recoverKey_eq_ok_iff : ∀ ns key start address, f.namespacePrefix ns = .ok start →
    (StorageKeys.recoverKey start address = .ok key ↔ f.deriveAddress ns key = .ok address)
  recoverKey_mismatch : ∀ ns start address, f.namespacePrefix ns = .ok start →
    ¬start <+: address → StorageKeys.recoverKey start address =
      .error (.prefixMismatch (Hex.encode start) (Hex.encode address))
  recoverKey_undecodable : ∀ ns start address, f.namespacePrefix ns = .ok start →
    start <+: address → (∀ key, f.deriveAddress ns key ≠ .ok address) →
      ∃ cause, StorageKeys.recoverKey start address = .error (.decoding cause)
  accounts_apart : f.records ≠ f.accounts → ∀ ns key account address,
    f.deriveAddress ns key = .ok address → address ≠ f.accountAddress account

theorem Digests.unambiguous (d : Digests) (keys : StorageKeys) :
    (d.filing keys).Unambiguous where
  namespacePrefix_ok ns hns := ⟨_, namespacePrefix_eq_ok_iff.2 ⟨hns, rfl⟩⟩
  deriveAddress_ok ns key hns hkey := ⟨_, deriveAddress_eq_ok_iff.2 ⟨hns, hkey, rfl⟩⟩
  injective ns ns' key key' address h h' := by
    obtain ⟨hns, hkey, rfl⟩ := deriveAddress_eq_ok_iff.1 h
    obtain ⟨hns', hkey', heq⟩ := deriveAddress_eq_ok_iff.1 h'
    exact recordAddress_inj hns hns' hkey hkey' heq
  prefix_iff ns ns' key start address hstart h := by
    obtain ⟨hns', rfl⟩ := namespacePrefix_eq_ok_iff.1 hstart
    obtain ⟨hns, -, rfl⟩ := deriveAddress_eq_ok_iff.1 h
    constructor
    · intro hprefix
      have hsame := eq_of_namespaceAddress_prefix hns' hns hprefix
      exact hsame.symm
    · rintro rfl
      exact List.prefix_append _ _
  recoverKey_eq_ok_iff ns key start address hstart := by
    obtain ⟨hns, rfl⟩ := namespacePrefix_eq_ok_iff.1 hstart
    rw [Digests.recoverKey_eq_ok_iff]
    constructor
    · rintro ⟨hkey, rfl⟩
      exact deriveAddress_eq_ok_iff.2 ⟨hns, hkey, rfl⟩
    · intro h
      obtain ⟨-, hkey, rfl⟩ := deriveAddress_eq_ok_iff.1 h
      exact ⟨hkey, rfl⟩
  recoverKey_mismatch ns start address _ hprefix := recoverKey_eq_mismatch hprefix
  recoverKey_undecodable ns start address hstart hprefix hnone := by
    obtain ⟨hns, rfl⟩ := namespacePrefix_eq_ok_iff.1 hstart
    rcases recoverKey_of_prefix hprefix with ⟨key, hkey⟩ | hcause
    · obtain ⟨hshort, rfl⟩ := Digests.recoverKey_eq_ok_iff.1 hkey
      exact absurd (deriveAddress_eq_ok_iff.2 ⟨hns, hshort, rfl⟩) (hnone key)
    · exact hcause
  accounts_apart hapart ns key account address h := by
    obtain ⟨-, -, rfl⟩ := deriveAddress_eq_ok_iff.1 h
    exact recordAddress_ne_accountAddress hapart ns key account

/-- **Addresses are unambiguous**, in every layout, and whatever digests they are made with. -/
theorem StorageKeys.filing_unambiguous (layout : Layout) :
    (ofLayout layout).filing.Unambiguous ∧
      ∀ d : Digests, (d.filing (d.keys layout)).Unambiguous :=
  ⟨Digests.standard.unambiguous (Digests.standard.keys layout),
    fun d => d.unambiguous (d.keys layout)⟩

end MetaLedger
