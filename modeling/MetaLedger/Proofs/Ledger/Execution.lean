import MetaLedger.Ledger.Execution
import MetaLedger.Proofs.Address
import MetaLedger.Proofs.Ledger.Entries

/-!
# What execution does to accounts

A call changes at most the record at its own address (`dispatch_cases`), which is no account's, so
all that execution does to accounts is to count: the signer's nonce goes up by one for each of its
transactions, whatever becomes of the call, and no other nonce changes (`nonce_execute`). Counting
stops at the largest nonce, so over a run the nonces are numbers of transactions only as long as
these stay below it (`toNat_nonce_executeAll`).
-/

namespace MetaLedger

/-- Counting stops at the largest nonce. -/
theorem Nonce.toNat_next_eq_min (n : Nonce) : n.next.toNat = min (n.toNat + 1) (UInt32.size - 1) := by
  have hone : (1 : UInt32).toNat = 1 := rfl
  have hlast : (0xFFFFFFFF : UInt32).toNat = UInt32.size - 1 := rfl
  have hlt := n.toNat_lt_size
  unfold Nonce.next
  split
  · next hmax =>
    rw [hmax, hlast]
    exact (Nat.min_eq_right (Nat.le_succ _)).symm
  · next hmax =>
    have hne : n.toNat ≠ UInt32.size - 1 := fun heq => hmax (UInt32.toNat_inj.1 (heq.trans hlast.symm))
    have hnext : n.toNat + 1 < UInt32.size := by omega
    rw [UInt32.toNat_add, hone, Nat.min_eq_left (Nat.le_sub_one_of_lt hnext)]
    exact Nat.mod_eq_of_lt hnext

theorem Nonce.toNat_next {n : Nonce} (h : n.toNat + 1 < UInt32.size) :
    n.next.toNat = n.toNat + 1 := by
  rw [toNat_next_eq_min, Nat.min_eq_left (Nat.le_sub_one_of_lt h)]

namespace Ledger.Rules

variable {r : Rules}

/-! ## Accounts -/

theorem accountInfo?_insert (r : Rules) (e : Entries) (a b : AccountId) (info : AccountInfo) :
    r.accountInfo? (e.insert (r.keys.accountAddress a) info.encode) b =
      if b = a then some info else r.accountInfo? e b := by
  unfold accountInfo?
  split
  · next same =>
    rw [same, Entries.get?_insert_self, Option.bind_some, AccountInfo.decode?_encode]
  · next different =>
    rw [Entries.get?_insert_of_ne fun heq => different (StorageKeys.accountAddress_inj heq)]

/-- What is stored of an account depends on its own address only. -/
theorem accountInfo?_congr {e f : Entries} {a : AccountId}
    (h : e.get? (r.keys.accountAddress a) = f.get? (r.keys.accountAddress a)) :
    r.accountInfo? e a = r.accountInfo? f a := by
  unfold accountInfo?
  rw [h]

theorem nonce_eq_getD (r : Rules) (e : Entries) (a : AccountId) :
    r.nonce e a = ((r.accountInfo? e a).getD .fresh).nonce := by
  unfold nonce
  cases r.accountInfo? e a <;> rfl

theorem nonce_congr {e f : Entries} {a : AccountId}
    (h : r.accountInfo? e a = r.accountInfo? f a) : r.nonce e a = r.nonce f a := by
  unfold nonce
  rw [h]

theorem accountInfo?_bumpNonce (r : Rules) (e : Entries) (a b : AccountId) :
    r.accountInfo? (r.bumpNonce a e) b =
      if b = a then
        let info := (r.accountInfo? e a).getD .fresh
        some { info with nonce := info.nonce.next }
      else r.accountInfo? e b :=
  accountInfo?_insert r e a b _

theorem nonce_bumpNonce (r : Rules) (e : Entries) (a b : AccountId) :
    r.nonce (r.bumpNonce a e) b = if b = a then (r.nonce e a).next else r.nonce e b := by
  rw [nonce_eq_getD, accountInfo?_bumpNonce, nonce_eq_getD r e a, nonce_eq_getD r e b]
  split <;> rfl

/-! ## Calls -/

theorem get?_of_record?_none {e : Entries} {address : Address} (h : record? e address = .ok none) :
    e.get? address = none := by
  unfold record? at h
  cases hget : e.get? address with
  | none => rfl
  | some raw =>
    simp only [hget] at h
    cases hraw : Record.decode raw <;> simp only [hraw] at h <;> cases h

/-- A call that is not refused has found what its address holds. -/
theorem dispatch_eq_ok {signer : AccountId} {call : Call} {e changed : Entries} {event : Event}
    (h : r.dispatch signer call e = .ok (changed, event)) :
    ∃ existing, record? e (r.keys.recordAddress call.ns call.key) = .ok existing ∧
      apply signer call (r.keys.recordAddress call.ns call.key) existing e =
        .ok (changed, event) := by
  unfold dispatch at h
  cases haddress : r.keys.deriveAddress call.ns call.key with
  | error failure =>
    simp only [haddress] at h
    cases h
  | ok address =>
    obtain rfl := StorageKeys.deriveAddress_eq_recordAddress haddress
    simp only [haddress] at h
    cases hrecord : record? e (r.keys.recordAddress call.ns call.key) with
    | error failure =>
      simp only [hrecord] at h
      cases h
    | ok existing =>
      simp only [hrecord] at h
      exact ⟨existing, rfl, h⟩

/-- All that a call can do that is not refused: insert a record where nothing is stored, or remove
or change the data of a record that the signer owns. -/
theorem dispatch_cases {signer : AccountId} {call : Call} {e changed : Entries} {event : Event}
    (h : r.dispatch signer call e = .ok (changed, event)) :
    let address := r.keys.recordAddress call.ns call.key
    (∃ data, call = .set call.ns call.key data ∧ e.get? address = none ∧
      changed = e.insert address (Record.encode ⟨data, signer⟩) ∧
      event = .created call.ns call.key signer) ∨
    (∃ record, call = .delete call.ns call.key ∧ record? e address = .ok (some record) ∧
      record.owner = signer ∧ changed = e.erase address ∧
      event = .removed call.ns call.key signer) ∨
    (∃ record data, call = .update call.ns call.key data ∧
      record? e address = .ok (some record) ∧ record.owner = signer ∧
      changed = e.insert address (Record.encode { record with data }) ∧
      event = .updated call.ns call.key signer) := by
  intro address
  obtain ⟨existing, hrecord, happly⟩ := dispatch_eq_ok h
  cases call with
  | set ns key data =>
    cases existing with
    | some record => cases happly
    | none =>
      cases happly
      exact .inl ⟨data, rfl, get?_of_record?_none hrecord, rfl, rfl⟩
  | delete ns key =>
    cases existing with
    | none => cases happly
    | some record =>
      by_cases howner : record.owner = signer
      · simp only [apply, howner, if_true] at happly
        cases happly
        exact .inr (.inl ⟨record, rfl, hrecord, howner, rfl, rfl⟩)
      · simp only [apply, howner, if_false] at happly
        cases happly
  | update ns key data =>
    cases existing with
    | none => cases happly
    | some record =>
      by_cases howner : record.owner = signer
      · simp only [apply, howner, if_true] at happly
        cases happly
        exact .inr (.inr ⟨record, data, rfl, hrecord, howner, by rw [howner], rfl⟩)
      · simp only [apply, howner, if_false] at happly
        cases happly

/-- A call leaves everything but its own address as it is. -/
theorem dispatch_get?_of_ne {signer : AccountId} {call : Call} {e changed : Entries} {event : Event}
    (h : r.dispatch signer call e = .ok (changed, event)) {other : Address}
    (hne : other ≠ r.keys.recordAddress call.ns call.key) : changed.get? other = e.get? other := by
  rcases dispatch_cases h with ⟨_, _, _, rfl, _⟩ | ⟨_, _, _, _, rfl, _⟩ | ⟨_, _, _, _, _, rfl, _⟩
  · exact Entries.get?_insert_of_ne hne
  · exact Entries.get?_erase_of_ne hne
  · exact Entries.get?_insert_of_ne hne

/-! ## Transactions -/

theorem execute_of_ok {e changed : Entries} {tx : PoolEntry} {event : Event}
    (h : r.dispatch tx.signer tx.call (r.bumpNonce tx.signer e) = .ok (changed, event)) :
    r.execute e tx = (changed, ⟨tx.hash, event⟩) := by
  simp only [execute, h]

theorem execute_of_error {e : Entries} {tx : PoolEntry} {reason : DispatchError}
    (h : r.dispatch tx.signer tx.call (r.bumpNonce tx.signer e) = .error reason) :
    r.execute e tx = (r.bumpNonce tx.signer e, ⟨tx.hash, .failed reason⟩) := by
  simp only [execute, h]

theorem execute_hash (r : Rules) (e : Entries) (tx : PoolEntry) :
    (r.execute e tx).2.hash = tx.hash := by
  cases h : r.dispatch tx.signer tx.call (r.bumpNonce tx.signer e) with
  | ok result => rw [execute_of_ok h]
  | error reason => rw [execute_of_error h]

theorem executeAll_hash (r : Rules) (e : Entries) (txs : List PoolEntry) :
    (r.executeAll e txs).2.map Executed.hash = txs.map PoolEntry.hash := by
  induction txs generalizing e with
  | nil => rfl
  | cons tx rest ih => simp only [executeAll, List.map_cons, execute_hash, ih]

theorem executeAll_append (r : Rules) (e : Entries) (first second : List PoolEntry) :
    r.executeAll e (first ++ second) =
      let (middle, executed) := r.executeAll e first
      let (last, others) := r.executeAll middle second
      (last, executed ++ others) := by
  induction first generalizing e with
  | nil => rfl
  | cons tx rest ih => simp only [List.cons_append, executeAll, ih]

theorem executeAll_append_fst (r : Rules) (e : Entries) (first second : List PoolEntry) :
    (r.executeAll e (first ++ second)).1 = (r.executeAll (r.executeAll e first).1 second).1 := by
  rw [executeAll_append]

/-- What executing does depends on where accounts and records are kept, and on nothing else. -/
theorem executeAll_congr {q : Rules} (keys : r.keys = q.keys) (e : Entries) (txs : List PoolEntry) :
    r.executeAll e txs = q.executeAll e txs := by
  induction txs generalizing e with
  | nil => rfl
  | cons tx rest ih =>
    have hstep : r.execute e tx = q.execute e tx := by
      unfold execute bumpNonce dispatch accountInfo?
      rw [keys]
    simp only [executeAll, hstep, ih]

section Disjoint

variable (disjoint : r.keys.Disjoint)

include disjoint

/-- After a transaction, all accounts are as counting it alone leaves them. -/
theorem execute_get?_account (e : Entries) (tx : PoolEntry) (a : AccountId) :
    (r.execute e tx).1.get? (r.keys.accountAddress a) =
      (r.bumpNonce tx.signer e).get? (r.keys.accountAddress a) := by
  cases h : r.dispatch tx.signer tx.call (r.bumpNonce tx.signer e) with
  | ok result =>
    rw [execute_of_ok h]
    exact dispatch_get?_of_ne h (disjoint _ _ a).symm
  | error reason => rw [execute_of_error h]

theorem accountInfo?_execute (e : Entries) (tx : PoolEntry) (a : AccountId) :
    r.accountInfo? (r.execute e tx).1 a = r.accountInfo? (r.bumpNonce tx.signer e) a :=
  accountInfo?_congr (execute_get?_account disjoint e tx a)

theorem nonce_execute (e : Entries) (tx : PoolEntry) (a : AccountId) :
    r.nonce (r.execute e tx).1 a = if a = tx.signer then (r.nonce e a).next else r.nonce e a := by
  rw [nonce_congr (accountInfo?_execute disjoint e tx a), nonce_bumpNonce]
  split
  · next same => rw [same]
  · rfl

/-- The nonce goes up by the number of the account's transactions, as far as it can. -/
theorem toNat_nonce_executeAll_eq_min (e : Entries) (txs : List PoolEntry) (a : AccountId) :
    (r.nonce (r.executeAll e txs).1 a).toNat =
      min ((r.nonce e a).toNat + txs.countP (·.signer = a)) (UInt32.size - 1) := by
  induction txs generalizing e with
  | nil => exact (Nat.min_eq_left (Nat.le_sub_one_of_lt (r.nonce e a).toNat_lt_size)).symm
  | cons tx rest ih =>
    have hstep := nonce_execute disjoint e tx a
    rw [List.countP_cons]
    show (r.nonce (r.executeAll (r.execute e tx).1 rest).1 a).toNat = _
    rw [ih, hstep]
    by_cases hsigner : tx.signer = a
    · rw [if_pos hsigner.symm, Nonce.toNat_next_eq_min]
      simp only [hsigner, decide_true, if_true]
      omega
    · rw [if_neg (Ne.symm hsigner)]
      simp only [hsigner, decide_false, Bool.false_eq_true, if_false, Nat.add_zero]

theorem nonce_le_executeAll (e : Entries) (txs : List PoolEntry) (a : AccountId) :
    (r.nonce e a).toNat ≤ (r.nonce (r.executeAll e txs).1 a).toNat := by
  have hlt := (r.nonce e a).toNat_lt_size
  rw [toNat_nonce_executeAll_eq_min disjoint]
  omega

theorem toNat_nonce_executeAll (e : Entries) (txs : List PoolEntry) (a : AccountId)
    (h : (r.nonce e a).toNat + txs.countP (·.signer = a) < UInt32.size) :
    (r.nonce (r.executeAll e txs).1 a).toNat =
      (r.nonce e a).toNat + txs.countP (·.signer = a) := by
  rw [toNat_nonce_executeAll_eq_min disjoint, Nat.min_eq_left (Nat.le_sub_one_of_lt h)]

end Disjoint

end Ledger.Rules

end MetaLedger
