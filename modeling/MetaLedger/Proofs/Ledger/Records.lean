import MetaLedger.Proofs.Call
import MetaLedger.Proofs.Ledger.Execution

/-!
# What execution does to records

A transaction creates a record that is not there, or changes or removes one that its signer owns, and
then its call names that record (`Included.Touches`); or it is about another record, or is refused
(`Included.Leaves`). `Trail` follows one record through some transactions, one after the other. What it
comes to in the end is read off the trail alone: a record that is there is its owner's until the owner
removes it (`Trail.owner_kept`), one that appears is its creator's (`Trail.appeared`), and what is there
is what the last transaction that touches it leaves behind (`Trail.eq_written`).

That a transaction leaves the records of others as they are is owed to the addresses: those of records
tell namespace and key apart, and none of them is an account's (`Stored.executeAll`).
-/

namespace MetaLedger

theorem Call.Short.ns {c : Call} (h : c.Short) : c.ns.length < UInt32.size := by
  cases c <;> exact h.1

theorem Call.Short.key {c : Call} (h : c.Short) : c.key.length < UInt32.size := by
  cases c with
  | set ns key data => exact h.2.1
  | delete ns key => exact h.2
  | update ns key data => exact h.2.1

namespace Ledger

/-! ## Transactions in blocks -/

/-- A transaction in a block, with what came of it. -/
structure Included where
  block : Nat
  tx : PoolEntry
  event : Event

namespace Included

/-- What is logged of the transaction. -/
def logged (i : Included) : LoggedEvent := ⟨i.block, i.tx.hash, i.event⟩

def signer (i : Included) : AccountId := i.tx.signer

/-- The transaction is a set of the namespace and key that was not refused. -/
def Creates (i : Included) (ns key data : Bytes) : Prop :=
  i.tx.call = .set ns key data ∧ i.event = .created ns key i.signer

def Updates (i : Included) (ns key data : Bytes) : Prop :=
  i.tx.call = .update ns key data ∧ i.event = .updated ns key i.signer

def Removes (i : Included) (ns key : Bytes) : Prop :=
  i.tx.call = .delete ns key ∧ i.event = .removed ns key i.signer

/-- The transaction is not about the namespace and key, or is refused. -/
def Leaves (i : Included) (ns key : Bytes) : Prop :=
  i.tx.call.ns = ns → i.tx.call.key = key → ∃ reason, i.event = .failed reason

/-- What the transaction leaves behind, if it is not refused. -/
def written (i : Included) : Option Record :=
  match i.tx.call with
  | .set _ _ data | .update _ _ data => some ⟨data, i.signer⟩
  | .delete _ _ => none

/-- How a transaction changes the record of a namespace and key. -/
inductive Touches (i : Included) (ns key : Bytes) : Option Record → Option Record → Prop where
  | created {data : Bytes} : i.Creates ns key data →
      Touches i ns key none (some ⟨data, i.signer⟩)
  | updated {old data : Bytes} : i.Updates ns key data →
      Touches i ns key (some ⟨old, i.signer⟩) (some ⟨data, i.signer⟩)
  | removed {old : Bytes} : i.Removes ns key → Touches i ns key (some ⟨old, i.signer⟩) none

variable {i : Included} {ns key : Bytes} {x y : Option Record}

theorem Touches.not_leaves (h : i.Touches ns key x y) : ¬i.Leaves ns key := by
  intro hleaves
  unfold Leaves at hleaves
  cases h with
  | created h | updated h | removed h =>
    obtain ⟨hcall, hevent⟩ := h
    rw [hcall, hevent] at hleaves
    obtain ⟨_, hfailed⟩ := hleaves rfl rfl
    cases hfailed

theorem Touches.eq_written (h : i.Touches ns key x y) : y = i.written := by
  unfold written
  cases h with
  | created h | updated h | removed h => rw [h.1]

end Included

/-! ## The trail of a record -/

/-- What becomes of the record of a namespace and key by some transactions. -/
inductive Trail (ns key : Bytes) : List Included → Option Record → Option Record → Prop where
  | nil (x : Option Record) : Trail ns key [] x x
  | left {i : Included} {rest : List Included} {x y : Option Record} :
      i.Leaves ns key → Trail ns key rest x y → Trail ns key (i :: rest) x y
  | touched {i : Included} {rest : List Included} {x y z : Option Record} :
      i.Touches ns key x y → Trail ns key rest y z → Trail ns key (i :: rest) x z

namespace Trail

variable {ns key : Bytes} {first second : List Included} {x y z : Option Record}

theorem append (h : Trail ns key first x y) (hnext : Trail ns key second y z) :
    Trail ns key (first ++ second) x z := by
  induction h with
  | nil x => exact hnext
  | left hleaves _ ih => exact .left hleaves (ih hnext)
  | touched htouch _ ih => exact .touched htouch (ih hnext)

/-- Who changes or removes a record first is its owner. -/
theorem changed {record : Record} (h : Trail ns key first (some record) y)
    (hne : y ≠ some record) :
    ∃ i ∈ first, i.signer = record.owner ∧
      (i.Removes ns key ∨ ∃ data, i.Updates ns key data) := by
  generalize hx : some record = x at h
  induction h with
  | nil x => exact absurd hx.symm hne
  | left _ _ ih =>
    obtain ⟨i, hi, hsigner⟩ := ih hne hx
    exact ⟨i, List.mem_cons_of_mem _ hi, hsigner⟩
  | @touched i _ _ _ _ htouch _ _ =>
    refine ⟨i, List.mem_cons_self, ?_⟩
    cases htouch with
    | created => cases hx
    | updated h =>
      cases hx
      exact ⟨rfl, .inr ⟨_, h⟩⟩
    | removed h =>
      cases hx
      exact ⟨rfl, .inl h⟩

/-- A record is its owner's until the owner removes it. -/
theorem owner_kept {record : Record} (h : Trail ns key first (some record) y)
    (hkept : ∀ i ∈ first, i.signer = record.owner → ¬i.Removes ns key) :
    ∃ after, y = some after ∧ after.owner = record.owner := by
  generalize hx : some record = x at h
  induction h generalizing record with
  | nil x => exact ⟨record, hx.symm, rfl⟩
  | left _ _ ih => exact ih (fun i hi => hkept i (List.mem_cons_of_mem _ hi)) hx
  | @touched i rest _ _ _ htouch _ ih =>
    cases htouch with
    | created => cases hx
    | @updated old data h =>
      cases hx
      let after : Record := ⟨data, i.signer⟩
      have hrest : ∀ j ∈ rest, j.signer = after.owner → ¬j.Removes ns key := fun j hj =>
        hkept j (List.mem_cons_of_mem _ hj)
      exact @ih after hrest rfl
    | removed h =>
      cases hx
      exact absurd h (hkept i List.mem_cons_self rfl)

/-- Who owns a record has owned it before, or has created it. -/
theorem appeared {record : Record} (h : Trail ns key first x (some record)) :
    (∃ before, x = some before ∧ before.owner = record.owner) ∨
      ∃ i ∈ first, i.signer = record.owner ∧ ∃ data, i.Creates ns key data := by
  generalize hy : some record = y at h
  induction h with
  | nil x => exact .inl ⟨record, hy.symm, rfl⟩
  | left _ _ ih =>
    rcases ih hy with hbefore | ⟨i, hi, hcreates⟩
    · exact .inl hbefore
    · exact .inr ⟨i, List.mem_cons_of_mem _ hi, hcreates⟩
  | @touched i _ _ _ _ htouch _ ih =>
    -- What comes after the first touch starts from a record of the owner's, or creates one.
    rcases ih hy with ⟨middle, hmiddle, howner⟩ | ⟨j, hj, hcreates⟩
    · cases htouch with
      | created h =>
        cases hmiddle
        exact .inr ⟨i, List.mem_cons_self, howner, _, h⟩
      | updated h =>
        cases hmiddle
        exact .inl ⟨_, rfl, howner⟩
      | removed h => cases hmiddle
    · exact .inr ⟨j, List.mem_cons_of_mem _ hj, hcreates⟩

/-- Nothing becomes of a record that every transaction leaves as it is. -/
theorem eq_of_leaves (h : Trail ns key first x y) (hleaves : ∀ i ∈ first, i.Leaves ns key) :
    y = x := by
  induction h with
  | nil x => rfl
  | left _ _ ih => exact ih fun i hi => hleaves i (List.mem_cons_of_mem _ hi)
  | touched htouch _ _ => exact absurd (hleaves _ List.mem_cons_self) htouch.not_leaves

/-- In the end, a record is what the last transaction that touches it leaves behind. -/
theorem eq_written {i : Included} (h : Trail ns key (first ++ i :: second) x y)
    (htouches : ¬i.Leaves ns key) (hleaves : ∀ j ∈ second, j.Leaves ns key) : y = i.written := by
  induction first generalizing x with
  | nil =>
    cases h with
    | left hi _ => exact absurd hi htouches
    | touched htouch hrest => exact (hrest.eq_of_leaves hleaves).trans htouch.eq_written
  | cons head rest ih =>
    cases h with
    | left _ hrest => exact ih hrest
    | touched _ hrest => exact ih hrest

end Trail

/-! ## Stored records -/

/-- What is stored of the record of a namespace and key: all of it, with data that are read back. -/
structure Stored (r : Rules) (e : Entries) (ns key : Bytes) (x : Option Record) : Prop where
  get? : e.get? (r.keys.recordAddress ns key) = x.map Record.encode
  short : ∀ record, x = some record → record.data.length < UInt32.size

namespace Stored

variable {r : Rules} {e f : Entries} {ns key : Bytes} {x y : Option Record}

theorem record? (h : Stored r e ns key x) :
    Rules.record? e (r.keys.recordAddress ns key) = .ok x := by
  unfold Rules.record?
  rw [h.get?]
  cases x with
  | none => rfl
  | some record =>
    have hread := Record.decode_encode (h.short record rfl)
    simp only [Option.map_some, hread]

theorem eq_of_record? (h : Stored r e ns key x)
    (hrecord : Rules.record? e (r.keys.recordAddress ns key) = .ok y) : x = y :=
  Except.ok.inj (h.record?.symm.trans hrecord)

theorem congr (h : Stored r e ns key x)
    (hsame : f.get? (r.keys.recordAddress ns key) = e.get? (r.keys.recordAddress ns key)) :
    Stored r f ns key x :=
  ⟨hsame.trans h.get?, h.short⟩

/-! ## Transactions -/

section Execution

variable (separate : r.keys.Separate) {tx : PoolEntry}

include separate in
theorem bumpNonce (h : Stored r e ns key x) (a : AccountId) :
    Stored r (r.bumpNonce a e) ns key x :=
  h.congr (Entries.get?_insert_of_ne (separate.recordAddress_ne ns key a))

variable (hns : ns.length < UInt32.size) (hkey : key.length < UInt32.size)

include hns hkey

theorem dispatch (h : Stored r e ns key x) (hshort : tx.call.Short) {changed : Entries}
    {event : Event} (hok : r.dispatch tx.signer tx.call e = .ok (changed, event)) (block : Nat) :
    ∃ y, Stored r changed ns key y ∧
      let i : Included := ⟨block, tx, event⟩
      (y = x ∧ i.Leaves ns key ∨ i.Touches ns key x y) := by
  by_cases hsame : r.keys.recordAddress ns key = r.keys.recordAddress tx.call.ns tx.call.key
  · -- The call has this address, so it names this record.
    obtain ⟨rfl, rfl⟩ := StorageKeys.recordAddress_inj hns hshort.ns hkey hshort.key hsame
    rcases Rules.dispatch_cases hok with ⟨data, hcall, hnone, rfl, rfl⟩ |
      ⟨record, hcall, hrecord, howner, rfl, rfl⟩ | ⟨record, data, hcall, hrecord, howner, rfl, rfl⟩
    · have hdata : data.length < UInt32.size := by
        rw [hcall] at hshort
        exact hshort.2.2
      have hx : x = none := by
        rw [h.get?] at hnone
        exact Option.map_eq_none_iff.1 hnone
      subst hx
      refine ⟨some ⟨data, tx.signer⟩, ⟨Entries.get?_insert_self .., ?_⟩, .inr (.created ⟨hcall, rfl⟩)⟩
      rintro _ ⟨⟩
      exact hdata
    · obtain rfl := h.eq_of_record? hrecord
      refine ⟨none, ⟨?_, nofun⟩, .inr ?_⟩
      · rw [Entries.get?_erase, if_pos rfl]
        rfl
      · obtain ⟨old, owner⟩ := record
        subst howner
        exact .removed ⟨hcall, rfl⟩
    · have hdata : data.length < UInt32.size := by
        rw [hcall] at hshort
        exact hshort.2.2
      obtain rfl := h.eq_of_record? hrecord
      obtain ⟨old, owner⟩ := record
      subst howner
      refine ⟨some ⟨data, tx.signer⟩, ⟨Entries.get?_insert_self .., ?_⟩, .inr (.updated ⟨hcall, rfl⟩)⟩
      rintro _ ⟨⟩
      exact hdata
  · refine ⟨x, h.congr (Rules.dispatch_get?_of_ne hok hsame), .inl ⟨rfl, ?_⟩⟩
    rintro rfl rfl
    exact absurd rfl hsame

include separate

/-- A transaction touches a record as its event says, or leaves it as it is. -/
theorem execute (h : Stored r e ns key x) (hshort : tx.call.Short) (block : Nat) :
    ∃ y, Stored r (r.execute e tx).1 ns key y ∧
      let i : Included := ⟨block, tx, (r.execute e tx).2.event⟩
      (y = x ∧ i.Leaves ns key ∨ i.Touches ns key x y) := by
  have hcounted := h.bumpNonce separate tx.signer
  cases hresult : r.dispatch tx.signer tx.call (r.bumpNonce tx.signer e) with
  | ok result =>
    rw [Rules.execute_of_ok hresult]
    exact hcounted.dispatch hns hkey hshort hresult block
  | error reason =>
    rw [Rules.execute_of_error hresult]
    exact ⟨x, hcounted, .inl ⟨rfl, fun _ _ => ⟨reason, rfl⟩⟩⟩

end Execution

end Stored

/-! ## Blocks -/

/-- Transactions as a block of the number includes them. -/
def Rules.includeAll (r : Rules) (block : Nat) (e : Entries) : List PoolEntry → List Included
  | [] => []
  | tx :: rest =>
    ⟨block, tx, (r.execute e tx).2.event⟩ :: r.includeAll block (r.execute e tx).1 rest

section IncludeAll

variable (r : Rules) (block : Nat) (e : Entries) (txs : List PoolEntry)

theorem Rules.includeAll_tx : (r.includeAll block e txs).map (·.tx) = txs := by
  induction txs generalizing e with
  | nil => rfl
  | cons tx rest ih => rw [includeAll, List.map_cons, ih]

theorem Rules.includeAll_block : ∀ i ∈ r.includeAll block e txs, i.block = block := by
  induction txs generalizing e with
  | nil => exact fun _ hi => nomatch hi
  | cons tx rest ih =>
    intro i hi
    rcases List.mem_cons.1 hi with rfl | hi
    · rfl
    · exact ih _ i hi

theorem Rules.includeAll_logged : (r.includeAll block e txs).map Included.logged =
    (r.executeAll e txs).2.map fun tx => ⟨block, tx.hash, tx.event⟩ := by
  induction txs generalizing e with
  | nil => rfl
  | cons tx rest ih =>
    simp only [includeAll, executeAll, List.map_cons, ih, Included.logged, execute_hash]

end IncludeAll

/-- A block's transactions leave a trail of each record. -/
theorem Stored.executeAll {r : Rules} (separate : r.keys.Separate) {ns key : Bytes}
    (hns : ns.length < UInt32.size) (hkey : key.length < UInt32.size) {e : Entries}
    {x : Option Record} (h : Stored r e ns key x) {txs : List PoolEntry}
    (hshort : ∀ tx ∈ txs, tx.call.Short) (block : Nat) :
    ∃ y, Stored r (r.executeAll e txs).1 ns key y ∧
      Trail ns key (r.includeAll block e txs) x y := by
  induction txs generalizing e x with
  | nil => exact ⟨x, h, .nil x⟩
  | cons tx rest ih =>
    obtain ⟨y, hy, hstep⟩ := h.execute separate hns hkey (hshort tx List.mem_cons_self) block
    obtain ⟨z, hz, htrail⟩ := ih hy fun other hother => hshort other (List.mem_cons_of_mem _ hother)
    refine ⟨z, hz, ?_⟩
    rcases hstep with ⟨rfl, hleaves⟩ | htouch
    · exact .left hleaves htrail
    · exact .touched htouch htrail

end Ledger

end MetaLedger
