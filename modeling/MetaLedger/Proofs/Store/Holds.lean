import MetaLedger.Proofs.Call
import MetaLedger.Proofs.Ledger.Execution
import MetaLedger.Proofs.Store.Contents

/-!
# What a ledger's entries stand for

Entries hold a map of records if the record of every namespace and key is what is stored at its
address, and nothing else is stored where records are filed (`Holds`). Executing a transaction keeps
this up, with the map changed as the call says, and its event tells whether the call was refused
(`Holds.execute`).
-/

namespace MetaLedger.Store

open Ledger (Rules Entries PoolEntry)

namespace Contents

/-- What a call makes of the records, and how it ends. -/
def call (m : Contents) (signer : AccountId) : Call → Contents × Outcome
  | .set ns key data =>
    match m ns key with
    | none => (m.put ns key (some ⟨data, signer⟩), .success)
    | some _ => (m, .failed .metadataExists)
  | .delete ns key =>
    match m ns key with
    | none => (m, .failed .metadataNotFound)
    | some record =>
      if record.owner = signer then (m.put ns key none, .success) else (m, .failed .noPermissions)
  | .update ns key data =>
    match m ns key with
    | none => (m, .failed .metadataNotFound)
    | some record =>
      if record.owner = signer then (m.put ns key (some { record with data }), .success)
      else (m, .failed .noPermissions)

end Contents

/-- The entries hold the records, and accounts beside them. -/
structure Holds (r : Rules) (e : Entries) (m : Contents) : Prop where
  records : ∀ {ns key : Bytes}, ns.length < UInt32.size → key.length < UInt32.size →
    e.get? (r.keys.recordAddress ns key) = (m ns key).map Record.encode
  short : ∀ {ns key : Bytes} {record : Record}, m ns key = some record →
    ns.length < UInt32.size ∧ key.length < UInt32.size ∧ record.data.length < UInt32.size
  only : ∀ {address : Address} {value : Bytes}, e.get? address = some value →
    r.keys.records.toList <+: address →
    ∃ ns key record, m ns key = some record ∧ address = r.keys.recordAddress ns key
  accounts : ∀ a, e.get? (r.keys.accountAddress a) = (r.accountInfo? e a).map AccountInfo.encode

namespace Holds

variable {r : Rules} {e : Entries} {m : Contents}

theorem empty (r : Rules) : Holds r .empty .empty where
  records _ _ := rfl
  short h := nomatch h
  only h := nomatch h
  accounts _ := rfl

theorem record?_eq (h : Holds r e m) {ns key : Bytes} (hns : ns.length < UInt32.size)
    (hkey : key.length < UInt32.size) :
    Rules.record? e (r.keys.recordAddress ns key) = .ok (m ns key) := by
  unfold Rules.record?
  rw [h.records hns hkey]
  cases hm : m ns key with
  | none => rfl
  | some record => simp only [Option.map_some, Record.decode_encode (h.short hm).2.2]

section Separate

variable (separate : r.keys.Separate)

include separate in
/-- Writing to an account leaves the records as they are. -/
theorem insertAccount (h : Holds r e m) (a : AccountId) (info : AccountInfo) :
    Holds r (e.insert (r.keys.accountAddress a) info.encode) m where
  records {ns key} hns hkey := by
    rw [Entries.get?_insert_of_ne (separate.recordAddress_ne ns key a)]
    exact h.records hns hkey
  short := h.short
  only {address value} hget hprefix := by
    have hne : address ≠ r.keys.accountAddress a := by
      rintro rfl
      exact separate.not_records_prefix a hprefix
    rw [Entries.get?_insert_of_ne hne] at hget
    exact h.only hget hprefix
  accounts b := by
    rw [Rules.accountInfo?_insert]
    by_cases same : b = a
    · rw [same, Entries.get?_insert_self, if_pos rfl, Option.map_some]
    · have hne : r.keys.accountAddress b ≠ r.keys.accountAddress a := by
        intro heq
        exact same (StorageKeys.accountAddress_inj heq)
      rw [Entries.get?_insert_of_ne hne, if_neg same]
      exact h.accounts b

theorem bumpNonce (separate : r.keys.Separate) (h : Holds r e m) (a : AccountId) :
    Holds r (r.bumpNonce a e) m :=
  h.insertAccount separate a _

/-- Entries that differ at the address of one record hold the map with that record changed. -/
theorem changeRecord (separate : r.keys.Separate) (h : Holds r e m) {changed : Entries} {ns key : Bytes}
    {record : Option Record} (hns : ns.length < UInt32.size) (hkey : key.length < UInt32.size)
    (hrecord : ∀ x, record = some x → x.data.length < UInt32.size)
    (hself : changed.get? (r.keys.recordAddress ns key) = record.map Record.encode)
    (hother : ∀ address, address ≠ r.keys.recordAddress ns key →
      changed.get? address = e.get? address) :
    Holds r changed (m.put ns key record) where
  records {n k} hn hk := by
    by_cases same : n = ns ∧ k = key
    · obtain ⟨rfl, rfl⟩ := same
      rw [hself, Contents.put_self]
    · rw [Contents.put_of_ne same, hother, h.records hn hk]
      intro heq
      exact same (StorageKeys.recordAddress_inj hn hns hk hkey heq)
  short {n k x} hx := by
    by_cases same : n = ns ∧ k = key
    · obtain ⟨rfl, rfl⟩ := same
      rw [Contents.put_self] at hx
      exact ⟨hns, hkey, hrecord x hx⟩
    · rw [Contents.put_of_ne same] at hx
      exact h.short hx
  only {address value} hget hprefix := by
    by_cases here : address = r.keys.recordAddress ns key
    · subst here
      rw [hself] at hget
      obtain ⟨x, hx, -⟩ := Option.map_eq_some_iff.1 hget
      exact ⟨ns, key, x, by rw [Contents.put_self, hx], rfl⟩
    · rw [hother address here] at hget
      obtain ⟨n, k, x, hx, rfl⟩ := h.only hget hprefix
      refine ⟨n, k, x, ?_, rfl⟩
      rw [Contents.put_of_ne, hx]
      rintro ⟨rfl, rfl⟩
      exact here rfl
  accounts a := by
    have hsame := hother _ (separate.recordAddress_ne ns key a).symm
    rw [hsame, Rules.accountInfo?_congr hsame]
    exact h.accounts a

theorem insertRecord (separate : r.keys.Separate) (h : Holds r e m) {ns key : Bytes}
    {record : Record} (hns : ns.length < UInt32.size) (hkey : key.length < UInt32.size)
    (hdata : record.data.length < UInt32.size) :
    Holds r (e.insert (r.keys.recordAddress ns key) record.encode) (m.put ns key (some record)) := by
  refine h.changeRecord separate hns hkey ?_ (Entries.get?_insert_self _ _ _) ?_
  · rintro x ⟨⟩
    exact hdata
  · exact fun address hne => Entries.get?_insert_of_ne hne

theorem eraseRecord (separate : r.keys.Separate) (h : Holds r e m) {ns key : Bytes}
    (hns : ns.length < UInt32.size) (hkey : key.length < UInt32.size) :
    Holds r (e.erase (r.keys.recordAddress ns key)) (m.put ns key none) := by
  refine h.changeRecord separate hns hkey (fun x hx => nomatch hx) ?_ ?_
  · rw [Entries.get?_erase, if_pos rfl]
    rfl
  · exact fun address hne => Entries.get?_erase_of_ne hne

theorem dispatch_eq (h : Holds r e m) (signer : AccountId) {c : Call} (hshort : c.Short) :
    r.dispatch signer c e =
      Rules.apply signer c (r.keys.recordAddress c.ns c.key) (m c.ns c.key) e := by
  obtain ⟨hns, hkey⟩ := hshort.names
  unfold Rules.dispatch
  simp only [StorageKeys.deriveAddress_of_short hns hkey, h.record?_eq hns hkey]

/-- **What executing does to the map**, and what the event tells. -/
theorem execute (separate : r.keys.Separate) (h : Holds r e m) (tx : PoolEntry)
    (hshort : tx.call.Short) :
    Holds r (r.execute e tx).1 (m.call tx.signer tx.call).1 ∧
      Rules.outcomeOf (r.execute e tx).2.event = (m.call tx.signer tx.call).2 := by
  have hcounted := h.bumpNonce separate tx.signer
  have hdispatch := hcounted.dispatch_eq tx.signer hshort
  unfold Rules.execute
  simp only [hdispatch]
  generalize tx.signer = signer at *
  generalize tx.call = c at *
  cases c with
  | set ns key data =>
    obtain ⟨hns, hkey, hdata⟩ := hshort
    simp only [Call.ns, Call.key, Contents.call]
    cases m ns key with
    | none => exact ⟨hcounted.insertRecord separate hns hkey hdata, rfl⟩
    | some record => exact ⟨hcounted, rfl⟩
  | delete ns key =>
    obtain ⟨hns, hkey⟩ := hshort
    simp only [Call.ns, Call.key, Contents.call]
    cases m ns key with
    | none => exact ⟨hcounted, rfl⟩
    | some record =>
      by_cases howner : record.owner = signer
      · simp only [Rules.apply, howner, if_true]
        exact ⟨hcounted.eraseRecord separate hns hkey, rfl⟩
      · simp only [Rules.apply, howner, if_false]
        exact ⟨hcounted, rfl⟩
  | update ns key data =>
    obtain ⟨hns, hkey, hdata⟩ := hshort
    simp only [Call.ns, Call.key, Contents.call]
    cases m ns key with
    | none => exact ⟨hcounted, rfl⟩
    | some record =>
      by_cases howner : record.owner = signer
      · simp only [Rules.apply, howner, if_true]
        exact ⟨hcounted.insertRecord separate hns hkey hdata, rfl⟩
      · simp only [Rules.apply, howner, if_false]
        exact ⟨hcounted, rfl⟩

end Separate

end Holds

end MetaLedger.Store
