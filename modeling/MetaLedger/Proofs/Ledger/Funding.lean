import MetaLedger.Proofs.Ledger.Execution

/-!
# Funding and executing do not see each other

Funding writes the free balance of an account, and executing its nonce and some records, so it makes
no difference which of the two comes first (`executeAll_credit`). Executing pays no fees: what an
account has free is what it was last given (`free_executeAll`).
-/

namespace MetaLedger.Ledger.Rules

variable {r : Rules}

def credit (r : Rules) (account : AccountId) (free : Amount) (e : Entries) : Entries :=
  let info := (r.accountInfo? e account).getD .fresh
  e.insert (r.keys.accountAddress account) { info with free }.encode

/-- What an account has free; nothing if it is not stored. -/
def free (r : Rules) (e : Entries) (account : AccountId) : Amount :=
  ((r.accountInfo? e account).getD .fresh).free

theorem accountInfo?_credit (r : Rules) (account : AccountId) (free : Amount) (e : Entries)
    (a : AccountId) :
    r.accountInfo? (r.credit account free e) a =
      if a = account then some { (r.accountInfo? e account).getD .fresh with free }
      else r.accountInfo? e a :=
  accountInfo?_insert r e account a _

theorem bumpNonce_credit (r : Rules) (a account : AccountId) (free : Amount) (e : Entries) :
    r.bumpNonce a (r.credit account free e) = r.credit account free (r.bumpNonce a e) := by
  by_cases same : a = account
  · subst same
    unfold bumpNonce
    rw [accountInfo?_credit, if_pos rfl]
    unfold credit
    rw [accountInfo?_insert, if_pos rfl, Entries.insert_insert, Entries.insert_insert]
    rfl
  · have haddress : r.keys.accountAddress account ≠ r.keys.accountAddress a := by
      intro heq
      exact same (StorageKeys.accountAddress_inj heq).symm
    unfold bumpNonce
    rw [accountInfo?_credit, if_neg same]
    unfold credit
    rw [accountInfo?_insert, if_neg (Ne.symm same), Entries.insert_comm _ haddress]

section Separate

variable (separate : r.keys.Separate) (account : AccountId) (free : Amount)

include separate in
theorem insert_credit (ns key : Bytes) (value : Bytes) (e : Entries) :
    (r.credit account free e).insert (r.keys.recordAddress ns key) value =
      r.credit account free (e.insert (r.keys.recordAddress ns key) value) := by
  have haddress := (separate.recordAddress_ne ns key account).symm
  have hinfo : r.accountInfo? (e.insert (r.keys.recordAddress ns key) value) account =
      r.accountInfo? e account := accountInfo?_congr (Entries.get?_insert_of_ne haddress)
  unfold credit
  rw [hinfo, Entries.insert_comm _ haddress]

include separate in
theorem erase_credit (ns key : Bytes) (e : Entries) :
    (r.credit account free e).erase (r.keys.recordAddress ns key) =
      r.credit account free (e.erase (r.keys.recordAddress ns key)) := by
  have haddress := (separate.recordAddress_ne ns key account).symm
  have hinfo : r.accountInfo? (e.erase (r.keys.recordAddress ns key)) account =
      r.accountInfo? e account := accountInfo?_congr (Entries.get?_erase_of_ne haddress)
  unfold credit
  rw [hinfo, Entries.erase_insert_comm _ haddress]

/-- A funded account changes nothing but the entries that a call leaves behind. -/
def credited (r : Rules) (account : AccountId) (free : Amount) :
    Except DispatchError (Entries × Event) → Except DispatchError (Entries × Event) :=
  Except.map fun (e, event) => (r.credit account free e, event)

include separate in
theorem apply_credit (signer : AccountId) (call : Call) (existing : Option Record) (e : Entries) :
    apply signer call (r.keys.recordAddress call.ns call.key) existing (r.credit account free e) =
      r.credited account free
        (apply signer call (r.keys.recordAddress call.ns call.key) existing e) := by
  cases call with
  | set ns key data =>
    cases existing with
    | some record => rfl
    | none =>
      simp only [apply, insert_credit separate]
      rfl
  | delete ns key =>
    cases existing with
    | none => rfl
    | some record =>
      simp only [apply]
      split
      · rw [erase_credit separate]
        rfl
      · rfl
  | update ns key data =>
    cases existing with
    | none => rfl
    | some record =>
      simp only [apply]
      split
      · rw [insert_credit separate]
        rfl
      · rfl

include separate in
theorem dispatch_credit (signer : AccountId) (call : Call) (e : Entries) :
    r.dispatch signer call (r.credit account free e) =
      r.credited account free (r.dispatch signer call e) := by
  unfold dispatch
  cases haddress : r.keys.deriveAddress call.ns call.key with
  | error failure => rfl
  | ok address =>
    obtain rfl := StorageKeys.deriveAddress_eq_recordAddress haddress
    have hrecord : record? (r.credit account free e) (r.keys.recordAddress call.ns call.key) =
        record? e (r.keys.recordAddress call.ns call.key) := by
      unfold record? credit
      rw [Entries.get?_insert_of_ne (separate.recordAddress_ne _ _ account)]
    simp only [hrecord]
    cases record? e (r.keys.recordAddress call.ns call.key) with
    | error failure => rfl
    | ok existing => exact apply_credit separate account free signer call existing e

include separate in
theorem execute_credit (e : Entries) (tx : PoolEntry) :
    r.execute (r.credit account free e) tx =
      (r.credit account free (r.execute e tx).1, (r.execute e tx).2) := by
  have hcall := dispatch_credit separate account free tx.signer tx.call (r.bumpNonce tx.signer e)
  rw [← bumpNonce_credit] at hcall
  cases hresult : r.dispatch tx.signer tx.call (r.bumpNonce tx.signer e) with
  | ok result =>
    rw [hresult] at hcall
    rw [execute_of_ok hresult, execute_of_ok hcall]
  | error reason =>
    rw [hresult] at hcall
    rw [execute_of_error hresult, execute_of_error hcall, bumpNonce_credit]

include separate in
/-- An account may as well be funded after the transactions. -/
theorem executeAll_credit (e : Entries) (txs : List PoolEntry) :
    r.executeAll (r.credit account free e) txs =
      (r.credit account free (r.executeAll e txs).1, (r.executeAll e txs).2) := by
  induction txs generalizing e with
  | nil => rfl
  | cons tx rest ih => simp only [executeAll, execute_credit separate, ih]

include separate in
theorem free_execute (e : Entries) (tx : PoolEntry) (a : AccountId) :
    r.free (r.execute e tx).1 a = r.free e a := by
  unfold Rules.free
  rw [accountInfo?_execute separate.disjoint, accountInfo?_bumpNonce]
  split
  · next same => rw [same]; rfl
  · rfl

include separate in
/-- Transactions cost nothing. -/
theorem free_executeAll (e : Entries) (txs : List PoolEntry) (a : AccountId) :
    r.free (r.executeAll e txs).1 a = r.free e a := by
  induction txs generalizing e with
  | nil => rfl
  | cons tx rest ih =>
    show r.free (r.executeAll (r.execute e tx).1 rest).1 a = r.free e a
    rw [ih, free_execute separate]

end Separate

end MetaLedger.Ledger.Rules
