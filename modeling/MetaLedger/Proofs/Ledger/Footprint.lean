import MetaLedger.Proofs.Ledger.Execution

/-!
# What a transaction reads and writes

A transaction has to do with two addresses: its signer's, where its nonce is counted, and the one of its
call, if there is one (`Rules.Touches`). It writes to no other address (`execute_get?_of_not_touches`), and
what becomes of it hangs on what these two hold (`execute_agree`). So transactions that have no address
in common may be executed in either order: the entries are the same in the end, and each one comes to
the same (`executeAll_comm`).
-/

namespace MetaLedger.Ledger

/-! ## Entries that agree -/

namespace Entries

/-- What is found at an address is given, or nothing is. -/
def put (e : Entries) (address : Address) : Option Bytes → Entries
  | some value => e.insert address value
  | none => e.erase address

theorem get?_put (e : Entries) (address : Address) (value : Option Bytes) (other : Address) :
    (e.put address value).get? other = if other = address then value else e.get? other := by
  cases value with
  | none => exact get?_erase ..
  | some value => exact get?_insert ..

/-- The same is found at some addresses. -/
def AgreeOn (P : Address → Prop) (e f : Entries) : Prop :=
  ∀ address, P address → e.get? address = f.get? address

theorem AgreeOn.put {P : Address → Prop} {e f : Entries} (h : AgreeOn P e f) (address : Address)
    (value : Option Bytes) : AgreeOn P (e.put address value) (f.put address value) := by
  intro other hother
  rw [get?_put, get?_put, h other hother]

end Entries

namespace Rules

variable {r : Rules} {e f : Entries} {tx : PoolEntry} {txs others : List PoolEntry}

/-! ## One transaction -/

/-- The addresses that a transaction has to do with. -/
def Touches (r : Rules) (tx : PoolEntry) (address : Address) : Prop :=
  address = r.keys.accountAddress tx.signer ∨
    r.keys.deriveAddress tx.call.ns tx.call.key = .ok address

/-- What a call does follows from what it finds at its address: it is refused, or something is put
there. -/
theorem apply_cases (signer : AccountId) (call : Call) (address : Address) (existing : Option Record) :
    (∃ reason, ∀ e, apply signer call address existing e = .error reason) ∨
    ∃ value event, ∀ e, apply signer call address existing e = .ok (e.put address value, event) := by
  cases call with
  | set ns key data =>
    cases existing with
    | some record => exact .inl ⟨_, fun _ => rfl⟩
    | none => exact .inr ⟨some _, _, fun _ => rfl⟩
  | delete ns key =>
    cases existing with
    | none => exact .inl ⟨_, fun _ => rfl⟩
    | some record =>
      by_cases howner : record.owner = signer
      · exact .inr ⟨none, _, fun _ => if_pos howner⟩
      · exact .inl ⟨_, fun _ => if_neg howner⟩
  | update ns key data =>
    cases existing with
    | none => exact .inl ⟨_, fun _ => rfl⟩
    | some record =>
      by_cases howner : record.owner = signer
      · exact .inr ⟨some _, _, fun _ => if_pos howner⟩
      · exact .inl ⟨_, fun _ => if_neg howner⟩

/-- What a call does to entries that agree on its address is the same. -/
theorem dispatch_cases_of_agree (signer : AccountId) {call : Call}
    (h : ∀ address, r.keys.deriveAddress call.ns call.key = .ok address →
      e.get? address = f.get? address) :
    (∃ reason, r.dispatch signer call e = .error reason ∧ r.dispatch signer call f = .error reason) ∨
    ∃ address value event, r.keys.deriveAddress call.ns call.key = .ok address ∧
      r.dispatch signer call e = .ok (e.put address value, event) ∧
      r.dispatch signer call f = .ok (f.put address value, event) := by
  unfold dispatch
  cases haddress : r.keys.deriveAddress call.ns call.key with
  | error failure => exact .inl ⟨_, rfl, rfl⟩
  | ok address =>
    have hrecord : record? e address = record? f address := by
      unfold record?
      rw [h address haddress]
    simp only [hrecord]
    cases record? f address with
    | error failure => exact .inl ⟨_, rfl, rfl⟩
    | ok existing =>
      rcases apply_cases signer call address existing with ⟨reason, happly⟩ |
        ⟨value, event, happly⟩
      · exact .inl ⟨reason, happly e, happly f⟩
      · exact .inr ⟨address, value, event, rfl, happly e, happly f⟩

/-- Entries that agree on what a transaction touches agree on what comes of it. -/
theorem execute_agree {P : Address → Prop} (h : Entries.AgreeOn P e f)
    (hP : ∀ address, r.Touches tx address → P address) :
    (r.execute e tx).2 = (r.execute f tx).2 ∧
      Entries.AgreeOn P (r.execute e tx).1 (r.execute f tx).1 := by
  have hcounted : Entries.AgreeOn P (r.bumpNonce tx.signer e) (r.bumpNonce tx.signer f) := by
    have hinfo : r.accountInfo? e tx.signer = r.accountInfo? f tx.signer :=
      accountInfo?_congr (h _ (hP _ (.inl rfl)))
    unfold bumpNonce
    rw [hinfo]
    exact h.put _ (some _)
  have hrecord : ∀ address, r.keys.deriveAddress tx.call.ns tx.call.key = .ok address →
      (r.bumpNonce tx.signer e).get? address = (r.bumpNonce tx.signer f).get? address :=
    fun address haddress => hcounted address (hP address (.inr haddress))
  rcases dispatch_cases_of_agree tx.signer hrecord with ⟨reason, he, hf⟩ | ⟨_, _, _, -, he, hf⟩
  · rw [execute_of_error he, execute_of_error hf]
    exact ⟨rfl, hcounted⟩
  · rw [execute_of_ok he, execute_of_ok hf]
    exact ⟨rfl, hcounted.put _ _⟩

theorem execute_get?_of_not_touches {address : Address} (h : ¬r.Touches tx address) :
    (r.execute e tx).1.get? address = e.get? address := by
  obtain ⟨haccount, hrecord⟩ := not_or.1 h
  have hcounted : (r.bumpNonce tx.signer e).get? address = e.get? address :=
    Entries.get?_insert_of_ne haccount
  rcases dispatch_cases_of_agree (e := r.bumpNonce tx.signer e) tx.signer fun _ _ => rfl with
    ⟨reason, hresult, -⟩ | ⟨own, _, _, hown, hresult, -⟩
  · rw [execute_of_error hresult, hcounted]
  · have hne : address ≠ own := fun heq => hrecord (heq ▸ hown)
    rw [execute_of_ok hresult, Entries.get?_put, if_neg hne, hcounted]

/-! ## Several transactions -/

theorem executeAll_agree {P : Address → Prop} (h : Entries.AgreeOn P e f)
    (hP : ∀ tx ∈ txs, ∀ address, r.Touches tx address → P address) :
    (r.executeAll e txs).2 = (r.executeAll f txs).2 ∧
      Entries.AgreeOn P (r.executeAll e txs).1 (r.executeAll f txs).1 := by
  induction txs generalizing e f with
  | nil => exact ⟨rfl, h⟩
  | cons tx rest ih =>
    obtain ⟨hfirst, hrest⟩ := List.forall_mem_cons.1 hP
    obtain ⟨hevent, hnext⟩ := execute_agree h hfirst
    obtain ⟨hevents, hlast⟩ := ih hnext hrest
    exact ⟨by simp only [executeAll, hevent, hevents], hlast⟩

theorem executeAll_get?_of_not_touches {address : Address} (h : ∀ tx ∈ txs, ¬r.Touches tx address) :
    (r.executeAll e txs).1.get? address = e.get? address := by
  induction txs generalizing e with
  | nil => rfl
  | cons tx rest ih =>
    obtain ⟨hfirst, hrest⟩ := List.forall_mem_cons.1 h
    exact (ih hrest).trans (execute_get?_of_not_touches hfirst)

/-- The transactions have no address in common. -/
def Apart (r : Rules) (txs others : List PoolEntry) : Prop :=
  ∀ tx ∈ txs, ∀ other ∈ others, ∀ address, r.Touches tx address → ¬r.Touches other address

theorem Apart.symm (h : r.Apart txs others) : r.Apart others txs :=
  fun other hother tx htx address hfirst hsecond => h tx htx other hother address hsecond hfirst

/-- Accounts are at different addresses, records of different names as well, and no record is where an
account is. -/
theorem apart_of_names (disjoint : r.keys.Disjoint)
    (h : ∀ tx ∈ txs, ∀ other ∈ others, tx.signer ≠ other.signer ∧
      (tx.call.ns, tx.call.key) ≠ (other.call.ns, other.call.key)) : r.Apart txs others := by
  intro tx htx other hother address hfirst hsecond
  obtain ⟨hsigner, hnames⟩ := h tx htx other hother
  rcases hfirst with rfl | hfirst <;> rcases hsecond with hsecond | hsecond
  · exact hsigner (StorageKeys.accountAddress_inj hsecond)
  · exact disjoint _ _ _ (StorageKeys.deriveAddress_eq_recordAddress hsecond).symm
  · subst hsecond
    exact disjoint _ _ _ (StorageKeys.deriveAddress_eq_recordAddress hfirst).symm
  · obtain ⟨hns, hkey, haddress⟩ := StorageKeys.deriveAddress_eq_ok_iff.1 hfirst
    obtain ⟨hns', hkey', haddress'⟩ := StorageKeys.deriveAddress_eq_ok_iff.1 hsecond
    obtain ⟨hsame, hsame'⟩ :=
      StorageKeys.recordAddress_inj hns hns' hkey hkey' (haddress.symm.trans haddress')
    exact hnames (Prod.ext hsame hsame')

/-- Some address of the transactions. -/
def TouchesAny (r : Rules) (txs : List PoolEntry) (address : Address) : Prop :=
  ∃ tx ∈ txs, r.Touches tx address

/-- Transactions are not disturbed by others that come before them. -/
theorem Apart.executeAll (h : r.Apart txs others) (e : Entries) :
    (r.executeAll (r.executeAll e txs).1 others).2 = (r.executeAll e others).2 ∧
      Entries.AgreeOn (r.TouchesAny others) (r.executeAll (r.executeAll e txs).1 others).1
        (r.executeAll e others).1 := by
  refine executeAll_agree ?_ fun other hother address htouches => ⟨other, hother, htouches⟩
  rintro address ⟨other, hother, htouches⟩
  exact executeAll_get?_of_not_touches fun tx htx hfirst => h tx htx other hother address hfirst htouches

/-- Transactions that have no address in common may be executed in either order. -/
theorem executeAll_comm (h : r.Apart txs others) (e : Entries) :
    (r.executeAll (r.executeAll e txs).1 others).1 =
      (r.executeAll (r.executeAll e others).1 txs).1 := by
  refine Entries.ext_get? fun address => ?_
  -- An address that one side touches is as this side alone leaves it, since the other one passes it by.
  by_cases htxs : r.TouchesAny txs address
  · obtain ⟨tx, htx, htouches⟩ := htxs
    have hothers : ∀ other ∈ others, ¬r.Touches other address := fun other hother =>
      h tx htx other hother address htouches
    rw [executeAll_get?_of_not_touches hothers]
    exact ((h.symm.executeAll e).2 address ⟨tx, htx, htouches⟩).symm
  · have hnone : ∀ tx ∈ txs, ¬r.Touches tx address := fun tx htx htouches =>
      htxs ⟨tx, htx, htouches⟩
    rw [executeAll_get?_of_not_touches hnone]
    by_cases hothers : r.TouchesAny others address
    · exact (h.executeAll e).2 address hothers
    · have hnone' : ∀ other ∈ others, ¬r.Touches other address := fun other hother htouches =>
        hothers ⟨other, hother, htouches⟩
      rw [executeAll_get?_of_not_touches hnone', executeAll_get?_of_not_touches hnone',
        executeAll_get?_of_not_touches hnone]

/-! ## Outcomes -/

/-- Transactions with what comes of them. -/
def outcomes (r : Rules) (e : Entries) (txs : List PoolEntry) : List (PoolEntry × Executed) :=
  txs.zip (r.executeAll e txs).2

theorem outcomes_append (r : Rules) (e : Entries) (first second : List PoolEntry) :
    r.outcomes e (first ++ second) =
      r.outcomes e first ++ r.outcomes (r.executeAll e first).1 second := by
  have hlength : first.length = (r.executeAll e first).2.length := by
    have hhash := congrArg List.length (r.executeAll_hash e first)
    rw [List.length_map, List.length_map] at hhash
    exact hhash.symm
  unfold outcomes
  rw [executeAll_append]
  exact List.zip_append hlength

theorem Apart.outcomes_eq (h : r.Apart txs others) (e : Entries) :
    r.outcomes (r.executeAll e txs).1 others = r.outcomes e others := by
  unfold outcomes
  rw [(h.executeAll e).1]

/-- In either order, each transaction comes to the same. -/
theorem Apart.outcomes_perm (h : r.Apart txs others) (e : Entries) :
    (r.outcomes e (txs ++ others)).Perm (r.outcomes e (others ++ txs)) := by
  rw [outcomes_append, outcomes_append, h.outcomes_eq, h.symm.outcomes_eq]
  exact List.perm_append_comm

end Rules

end MetaLedger.Ledger
