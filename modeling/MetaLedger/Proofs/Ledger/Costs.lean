import MetaLedger.Proofs.Ledger.Commitment
import MetaLedger.Proofs.Ledger.Footprint
import MetaLedger.Proofs.Store.Filed

/-!
# What a transaction costs

A transaction is counted, whatever becomes of its call: the nonce of its signer goes up by one, and nothing
else of this or any other account changes. A call that succeeds may change the entry at its own address
besides, and one that fails changes nothing (`Charged`). A block is a row of these (`ChargedInTurn`).

So a failed call leaves nothing behind that a later one could see: the calls of the failed transactions may
as well be left out, and these only be counted (`executeSparing_succeeded`).
-/

namespace MetaLedger

/-- Where there is a larger nonce, counting is adding. -/
theorem Nonce.next_eq_add_one {n : Nonce} (h : n.toNat + 1 < UInt32.size) : n.next = n + 1 := by
  refine if_neg fun hlast => ?_
  rw [hlast] at h
  exact Nat.lt_irrefl _ h

namespace Ledger

namespace Rules

variable {r : Rules} {e f : Entries} {tx : PoolEntry} {txs : List PoolEntry}

/-- The call has succeeded. -/
def Executed.succeeded (done : Executed) : Bool := outcomeOf done.event = .success

theorem outcomeOf_of_dispatch_ok {signer : AccountId} {call : Call} {changed : Entries} {event : Event}
    (h : r.dispatch signer call e = .ok (changed, event)) : outcomeOf event = .success := by
  rcases dispatch_cases h with ⟨_, _, _, _, rfl⟩ | ⟨_, _, _, _, _, rfl⟩ | ⟨_, _, _, _, _, _, rfl⟩ <;> rfl

/-! ## One transaction -/

/-- What an account has stored reads as its state. -/
def AccountsRead (r : Rules) (e : Entries) : Prop :=
  ∀ a, e.get? (r.keys.accountAddress a) = (r.accountInfo? e a).map AccountInfo.encode

/-- All that a transaction changes. -/
structure Charged (r : Rules) (tx : PoolEntry) (done : Executed) (e f : Entries) : Prop where
  hash_eq : done.hash = tx.hash
  /-- The signer's nonce goes up by one, from what is stored of the account or from a fresh state. -/
  signer : ∃ info : AccountInfo,
    (e.get? (r.keys.accountAddress tx.signer) = some info.encode ∨
      e.get? (r.keys.accountAddress tx.signer) = none ∧ info = { providers := 1 }) ∧
    info.nonce.toNat + 1 < UInt32.size ∧
    f.get? (r.keys.accountAddress tx.signer) = some { info with nonce := info.nonce + 1 }.encode
  others : ∀ a, a ≠ tx.signer →
    f.get? (r.keys.accountAddress a) = e.get? (r.keys.accountAddress a)
  /-- What changes besides is the entry at the address of the call, if this succeeds. -/
  records : ∀ address, (∀ a, address ≠ r.keys.accountAddress a) → f.get? address ≠ e.get? address →
    done.succeeded ∧ r.keys.deriveAddress tx.call.ns tx.call.key = .ok address

section Disjoint

variable (disjoint : r.keys.Disjoint)

include disjoint

theorem execute_charged (hread : AccountsRead r e)
    (few : (r.nonce e tx.signer).toNat + 1 < UInt32.size) :
    Charged r tx (r.execute e tx).2 e (r.execute e tx).1 := by
  refine ⟨r.execute_hash e tx, ⟨(r.accountInfo? e tx.signer).getD .fresh, ?_, ?_, ?_⟩, ?_, ?_⟩
  · rw [hread]
    cases r.accountInfo? e tx.signer with
    | none => exact .inr ⟨rfl, rfl⟩
    | some info => exact .inl rfl
  · rwa [← nonce_eq_getD]
  · rw [execute_get?_account disjoint]
    rw [nonce_eq_getD] at few
    unfold bumpNonce
    rw [Entries.get?_insert_self, Nonce.next_eq_add_one few]
  · intro a hne
    rw [execute_get?_account disjoint]
    exact Entries.get?_insert_of_ne fun heq => hne (StorageKeys.accountAddress_inj heq)
  · intro address haccount hchanged
    have hcounted : (r.bumpNonce tx.signer e).get? address = e.get? address :=
      Entries.get?_insert_of_ne (haccount tx.signer)
    rcases dispatch_cases_of_agree (e := r.bumpNonce tx.signer e) tx.signer fun _ _ => rfl with
      ⟨reason, hresult, -⟩ | ⟨own, _, _, hown, hresult, -⟩
    · rw [execute_of_error hresult] at hchanged
      exact absurd hcounted hchanged
    · rw [execute_of_ok hresult] at hchanged ⊢
      refine ⟨decide_eq_true (outcomeOf_of_dispatch_ok hresult), ?_⟩
      by_cases hsame : address = own
      · rw [hsame]
        exact hown
      · rw [Entries.get?_put, if_neg hsame] at hchanged
        exact absurd hcounted hchanged

theorem AccountsRead.execute (h : AccountsRead r e) (tx : PoolEntry) :
    AccountsRead r (r.execute e tx).1 := by
  intro a
  rw [accountInfo?_execute disjoint, accountInfo?_bumpNonce, execute_get?_account disjoint]
  unfold bumpNonce
  split
  · next same => rw [same, Entries.get?_insert_self, Option.map_some]
  · next different =>
    rw [Entries.get?_insert_of_ne fun heq => different (StorageKeys.accountAddress_inj heq)]
    exact h a

end Disjoint

/-! ## Several transactions -/

/-- Transactions are charged one after the other. -/
inductive ChargedInTurn (r : Rules) : List PoolEntry → List Executed → Entries → Entries → Prop where
  | nil (e : Entries) : ChargedInTurn r [] [] e e
  | cons {tx : PoolEntry} {txs : List PoolEntry} {done : Executed} {others : List Executed}
      {e f g : Entries} : Charged r tx done e f → ChargedInTurn r txs others f g →
      ChargedInTurn r (tx :: txs) (done :: others) e g

/-- As long as no account comes to the largest nonce, all transactions are charged. -/
theorem executeAll_charged (disjoint : r.keys.Disjoint) (hread : AccountsRead r e)
    (few : ∀ a, (r.nonce e a).toNat + txs.countP (·.signer = a) < UInt32.size) :
    ChargedInTurn r txs (r.executeAll e txs).2 e (r.executeAll e txs).1 := by
  induction txs generalizing e with
  | nil => exact .nil e
  | cons tx rest ih =>
    have hfirst : (r.nonce e tx.signer).toNat + 1 < UInt32.size := by
      have hcount := few tx.signer
      rw [List.countP_cons, if_pos (decide_eq_true rfl)] at hcount
      omega
    -- One that is counted is one less to come, so the sum stays what it was.
    refine .cons (execute_charged disjoint hread hfirst) (ih (hread.execute disjoint tx) fun a => ?_)
    have hcount := few a
    have hnonce := nonce_execute disjoint e tx a
    rw [List.countP_cons] at hcount
    show (r.nonce (r.execute e tx).1 a).toNat + _ < UInt32.size
    rw [hnonce]
    by_cases hsigner : tx.signer = a
    · subst hsigner
      rw [if_pos rfl, Nonce.toNat_next hfirst]
      rw [if_pos (decide_eq_true rfl)] at hcount
      omega
    · rw [if_neg (Ne.symm hsigner)]
      rw [if_neg (by simpa using hsigner)] at hcount
      exact hcount

/-! ## Leaving failed calls out -/

/-- Executes transactions, but only counts those that are marked with `false`. -/
def executeSparing (r : Rules) (e : Entries) : List (PoolEntry × Bool) → Entries × List Executed
  | [] => (e, [])
  | (tx, true) :: rest =>
    let (e, done) := r.execute e tx
    let (e, others) := r.executeSparing e rest
    (e, done :: others)
  | (tx, false) :: rest => r.executeSparing (r.bumpNonce tx.signer e) rest

theorem execute_of_failed (h : (r.execute e tx).2.succeeded = false) :
    (r.execute e tx).1 = r.bumpNonce tx.signer e := by
  cases hresult : r.dispatch tx.signer tx.call (r.bumpNonce tx.signer e) with
  | error reason => rw [execute_of_error hresult]
  | ok result =>
    rw [execute_of_ok hresult] at h
    exact absurd (outcomeOf_of_dispatch_ok hresult) (of_decide_eq_false h)

/-- **Failed calls may be left out**: the entries and what comes of the others are the same. -/
theorem executeSparing_succeeded (e : Entries) (txs : List PoolEntry) :
    r.executeSparing e (txs.zip ((r.executeAll e txs).2.map Executed.succeeded)) =
      ((r.executeAll e txs).1, (r.executeAll e txs).2.filter Executed.succeeded) := by
  induction txs generalizing e with
  | nil => rfl
  | cons tx rest ih =>
    have hrest := ih (r.execute e tx).1
    simp only [executeAll, List.map_cons, List.zip_cons_cons]
    cases hdone : (r.execute e tx).2.succeeded with
    | true =>
      rw [List.filter_cons_of_pos hdone]
      simp only [executeSparing, hrest]
    | false =>
      -- The failed call has left the entries as counting leaves them, and the rest goes on from these.
      rw [List.filter_cons_of_neg (Bool.eq_false_iff.1 hdone)]
      simp only [executeSparing]
      rw [← execute_of_failed hdone, hrest]

end Rules

namespace State

variable {r : Rules} {s t : State}

/-! ## A block -/

/-- What a block of the transactions on top of `s` costs, where `t` is the state after it. -/
structure BlockCosts (r : Rules) (s : State) (txs : List PoolEntry) (done : List Rules.Executed)
    (t : State) : Prop where
  head : t.head = blockHash s.head t.number (txs.map PoolEntry.hash)
  events : t.events = s.events ++ done.map fun tx => ⟨t.number, tx.hash, tx.event⟩
  charged : r.ChargedInTurn txs done s.best t.best
  /-- With the failed calls left out, it would come to the same. -/
  sparing : r.executeSparing s.best (txs.zip (done.map (·.succeeded))) =
    (t.best, done.filter (·.succeeded))

theorem Extends.blockCosts {txs : List PoolEntry} (h : Extends r s txs t) (disjoint : r.keys.Disjoint)
    (hread : r.AccountsRead s.best)
    (few : ∀ a, (r.nonce s.best a).toNat + txs.countP (·.signer = a) < UInt32.size) :
    BlockCosts r s txs (r.executeAll s.best txs).2 t where
  head := by rw [h.head, h.number]
  events := by rw [h.events, h.number]
  charged := by
    rw [h.best]
    exact Rules.executeAll_charged disjoint hread few
  sparing := by
    rw [h.best]
    exact Rules.executeSparing_succeeded s.best txs

/-- The nonces suffice for the transactions that an operation puts into a block. -/
theorem Steady.countP_executed_lt {taken : Nat} (h : Steady r s taken) (few : taken + 1 < UInt32.size)
    {op : Op} {accepted : List Extrinsic} {executed : List PoolEntry}
    (heffect : Effect r s op accepted executed t) (a : AccountId) :
    (r.nonce s.best a).toNat + executed.countP (·.signer = a) < UInt32.size := by
  cases heffect with
  | nothing | queued | funded | closed => exact (r.nonce s.best a).toNat_lt_size
  | @included x watched call placement _ hvalid =>
    have hnext := (h.accept hvalid watched).pooled.nextNonce_lt few a
    unfold nextNonce at hnext
    rwa [accept_best] at hnext
  | sealed => exact h.pooled.nextNonce_lt (Nat.lt_of_succ_lt few) a

/-- **A failed call costs its nonce and nothing else**, in every block that a ledger seals. -/
theorem run_costs (c : Config) (separate : (StorageKeys.ofLayout c.layout).Separate)
    (before : List Op) (op : Op) (few : Op.Few (before ++ [op])) :
    let r := Rules.ofConfig c
    let s := (State.initial r).run r before
    let t := s.step r op
    t.number ≠ s.number → ∃ done, BlockCosts r s (s.executes r op) done t := by
  intro r s t hnumber
  have hfew : 0 + Op.submissions before < UInt32.size - 1 := by
    rw [Nat.zero_add]
    exact few.of_prefix (List.prefix_append before [op])
  have hsteady : Steady r s (0 + Op.submissions before) :=
    (Steady.initial r).run separate before hfew
  have hinOrder : Store.InOrder r s := (Store.InOrder.initial r).run separate before
  obtain ⟨_, hfiled⟩ := hinOrder.best
  have heffect := effect_step r s op
  rcases heffect.still_or_extends with hstill | hextends
  · exact absurd hstill.number hnumber
  · exact ⟨_, hextends.blockCosts separate.disjoint hfiled.holds.accounts
      (hsteady.countP_executed_lt (by omega) heffect)⟩

theorem number_step_block_ne (r : Rules) (hopen : s.closed = false) :
    (s.step r .block).number ≠ s.number := by
  show (s.requestSeal r).2.number ≠ s.number
  rw [requestSeal_of_open hopen, sealBlock_number]
  exact Nat.succ_ne_self _

/-- A block in which one call is refused and two are not. -/
theorem run_costs_outOfOrder :
    let r := Rules.ofConfig { sealMode := .manual }
    let s := (State.initial r).run r Op.outOfOrder
    ∃ done, BlockCosts r s (s.executes r .block) done (s.step r .block) :=
  run_costs { sealMode := .manual } (by decide +kernel) Op.outOfOrder .block (by decide +kernel)
    (number_step_block_ne _ (closed_run rfl (by decide +kernel)))

end State

end Ledger

end MetaLedger
