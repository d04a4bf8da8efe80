import MetaLedger.Proofs.Ledger.History

/-!
# Who comes with a nonce that was free a moment ago

An account's nonce never falls, so who read it some time ago comes with the nonce of now, or with one
that has been used (`nonce_le_step`). In the first case the transaction is the next one of its account,
unless another one waits at the nonce; it never waits for an earlier one (`Steady.validate_cases`). As
long as no transaction of an account is accepted, its nonce stays what it is and the account has nothing
in the pool (`Untouched.step`), so the first that comes with this nonce is accepted
(`Untouched.validate`).
-/

namespace MetaLedger.Ledger

/-! ## Nonces do not fall -/

section Nonces

variable {r : Rules} (separate : r.keys.Separate)

include separate

theorem Rules.nonce_executeAll_of_ne (e : Entries) {txs : List PoolEntry} {a : AccountId}
    (h : ∀ tx ∈ txs, tx.signer ≠ a) : r.nonce (r.executeAll e txs).1 a = r.nonce e a := by
  have hlt := (r.nonce e a).toNat_lt_size
  refine UInt32.toNat_inj.1 ?_
  rw [Rules.toNat_nonce_executeAll_eq_min separate.disjoint, State.countP_signer_eq_zero h]
  omega

theorem State.nonce_le_step (s : State) (op : Op) (a : AccountId) :
    (r.nonce s.best a).toNat ≤ (r.nonce (s.step r op).best a).toNat := by
  refine State.preserved_step (P := fun t => (r.nonce s.best a).toNat ≤ (r.nonce t.best a).toNat)
    ?_ ?_ ?_ ?_ (Nat.le_refl _) op
  · intro t x watched call placement _ _ h
    rw [State.accept_best]
    exact h
  · intro t _ h
    rw [State.sealBlock_best]
    exact Nat.le_trans h (Rules.nonce_le_executeAll separate.disjoint t.best t.ready a)
  · intro t account free h
    rw [State.nonce_fund]
    exact h
  · intro t h
    unfold State.close
    split <;> exact h

end Nonces

namespace State

variable {r : Rules} {s : State}

/-! ## An account with nothing in the pool -/

/-- The account has nothing in the pool, and its nonce is `n`. -/
structure Untouched (r : Rules) (a : AccountId) (n : Nonce) (s : State) : Prop where
  alone : ∀ e ∈ s.ready ++ s.future, e.signer ≠ a
  nonce : r.nonce s.best a = n

namespace Untouched

variable {a : AccountId} {n : Nonce}

theorem accept (h : Untouched r a n s) {x : Extrinsic} (hx : x.signer ≠ a) (watched : Bool)
    (call : Call) (placement : Placement) :
    Untouched r a n (s.accept r x watched call placement) where
  alone := by
    intro e he
    have hperm := State.accept_perm r x watched call placement s
    rcases List.mem_append.1 (hperm.mem_iff.1 he) with he | he
    · exact h.alone e he
    · rw [List.mem_singleton.1 he]
      exact hx
  nonce := by
    rw [State.accept_best]
    exact h.nonce

theorem sealBlock (separate : r.keys.Separate) (h : Untouched r a n s) :
    Untouched r a n (s.sealBlock r) where
  alone := by
    intro e he
    exact h.alone e (List.mem_append_right _ ((State.sealBlock_perm r s).mem_iff.1 he))
  nonce := by
    rw [State.sealBlock_best, Rules.nonce_executeAll_of_ne separate]
    · exact h.nonce
    · exact fun tx htx => h.alone tx (List.mem_append_left _ htx)

/-- An account stays as it is as long as no transaction of it is accepted. -/
theorem step (separate : r.keys.Separate) (h : Untouched r a n s) (op : Op)
    (hop : ∀ x ∈ s.accepts r op, x.signer ≠ a) : Untouched r a n (s.step r op) := by
  cases op with
  | submit x watched =>
    show Untouched r a n (s.submit r x watched).2
    rcases State.submit_cases r x watched s with ⟨e, heq⟩ | ⟨call, placement, hopen, hvalid, heq⟩
    · rw [heq]
      exact h
    · have hmem : x ∈ s.accepts r (.submit x watched) := by
        unfold State.accepts
        simp only [heq]
        exact List.mem_singleton_self x
      have hnext := h.accept (hop x hmem) watched call placement
      rw [heq]
      unfold State.sealIfInstant
      split
      · exact hnext.sealBlock separate
      · exact hnext
  | block =>
    show Untouched r a n (s.requestSeal r).2
    cases hclosed : s.closed with
    | true =>
      rw [State.requestSeal_of_closed hclosed]
      exact h
    | false =>
      rw [State.requestSeal_of_open hclosed]
      exact h.sealBlock separate
  | fund account free => exact ⟨h.alone, (State.nonce_fund r s account free a).trans h.nonce⟩
  | close =>
    show Untouched r a n s.close
    unfold State.close
    split
    · exact h
    · exact ⟨nofun, h.nonce⟩

/-- Who comes first at the account's nonce has nothing before it to wait for. -/
theorem valid (h : Untouched r a n s) {x : Extrinsic} {call : Call}
    (hfunded : (r.requireFunded && s.isUnfunded r x.signer) = false)
    (hverify : ∃ u, x.verify r.chain = .ok u) (hcall : r.call? x.call = some call)
    (hsigner : x.signer = a) (hnonce : x.nonce = n) : s.Valid r x call .ready := by
  have hcount : s.ready.countP (·.signer = a) = 0 :=
    countP_signer_eq_zero fun e he => h.alone e (List.mem_append_left _ he)
  refine ⟨hverify, hcall, hfunded, ?_, ?_, ?_⟩
  · rw [hsigner, h.nonce, hnonce]
    exact UInt32.lt_irrefl n
  · refine State.isPending_eq_false_iff.2 fun e he hsame => ?_
    exact absurd (hsame.trans hsigner) (h.alone e he)
  · have hexpected : expectedNonce r s.best s.ready x.signer = x.nonce := by
      unfold expectedNonce readyCount
      rw [hsigner, hcount, h.nonce, hnonce]
      exact UInt32.add_zero n
    unfold place
    rw [if_pos hexpected.symm]

/-- **Who comes first is accepted**, and waits for no one. -/
theorem validate (h : Untouched r a n s) {x : Extrinsic} {call : Call}
    (free : r.requireFunded = false) (hverify : ∃ u, x.verify r.chain = .ok u)
    (hcall : r.call? x.call = some call) (hsigner : x.signer = a) (hnonce : x.nonce = n) :
    s.validate r x = .ok (call, .ready) := by
  refine State.validate_eq_ok_iff.2 (h.valid ?_ hverify hcall hsigner hnonce)
  rw [free, Bool.false_and]

end Untouched

/-! ## A nonce that was read before -/

/-- A transaction at the account's nonce, or at one that has been used, does not wait for others: it is
the next one, or it is refused for its nonce, if its call can be read. -/
theorem Steady.validate_cases {taken : Nat} (h : Steady r s taken) {x : Extrinsic}
    (free : r.requireFunded = false) (hverify : ∃ u, x.verify r.chain = .ok u)
    (hle : x.nonce.toNat ≤ (r.nonce s.best x.signer).toNat) :
    (∃ call, s.validate r x = .ok (call, .ready)) ∨ s.validate r x = .error .stale ∨
      s.validate r x = .error .priorityTooLow ∨
      s.validate r x = .error .malformed ∧ r.call? x.call = none := by
  obtain ⟨u, hverify⟩ := hverify
  cases hcall : r.call? x.call with
  | none =>
    refine .inr (.inr (.inr ⟨?_, rfl⟩))
    unfold State.validate
    simp only [hverify, hcall]
  | some call =>
    by_cases hstale : x.nonce < r.nonce s.best x.signer
    · refine .inr (.inl ?_)
      unfold State.validate
      simp only [hverify, hcall, free, Bool.false_and, hstale, if_true, Bool.false_eq_true, if_false]
    · cases hpending : s.isPending x.signer x.nonce with
      | true =>
        refine .inr (.inr (.inl ?_))
        unfold State.validate
        simp only [hverify, hcall, free, Bool.false_and, hstale, hpending, if_true,
          Bool.false_eq_true, if_false]
      | false =>
        -- No ready transaction of the account stands at its nonce, so there is none at all.
        have hnonce : x.nonce = r.nonce s.best x.signer := by
          rw [UInt32.lt_iff_toNat_lt, Nat.not_lt] at hstale
          exact UInt32.toNat_inj.1 (Nat.le_antisymm hle hstale)
        have hfree := State.isPending_eq_false_iff.1 hpending
        have hnone : ¬∃ e ∈ s.ready, e.signer = x.signer ∧ e.nonce = x.nonce := by
          rintro ⟨e, he, hsigner, hsame⟩
          exact hfree e (List.mem_append_left _ he) hsigner hsame
        rw [h.pooled.exists_ready_iff, hnonce] at hnone
        have hcount : s.ready.countP (·.signer = x.signer) = 0 := by
          unfold nextNonce at hnone
          omega
        refine .inl ⟨call, State.validate_eq_ok_iff.2 ⟨⟨u, hverify⟩, hcall, ?_, hstale, hpending, ?_⟩⟩
        · rw [free, Bool.false_and]
        · have hexpected : expectedNonce r s.best s.ready x.signer = x.nonce := by
            unfold expectedNonce readyCount
            rw [hcount, hnonce]
            exact UInt32.add_zero _
          unfold place
          rw [if_pos hexpected.symm]

/-- Who comes to wait for an earlier nonce has come for that. -/
theorem mem_future_accept {x : Extrinsic} {watched : Bool} {call : Call} {placement : Placement}
    {e : PoolEntry} (he : e ∈ (s.accept r x watched call placement).future) :
    e ∈ s.future ∨ placement = .future ∧ e.extrinsic = x := by
  rw [State.accept_future] at he
  cases placement with
  | ready =>
    have hperm := State.due_perm x.signer (expectedNonce r s.best s.ready x.signer + 1) s.future
    exact .inl (hperm.mem_iff.2 (List.mem_append_right _ he))
  | future =>
    rcases List.mem_append.1 he with he | he
    · exact .inl he
    · rw [List.mem_singleton.1 he]
      exact .inr ⟨rfl, rfl⟩

theorem mem_future_sealBlock {e : PoolEntry} (he : e ∈ (s.sealBlock r).future) : e ∈ s.future :=
  (State.sealBlock_perm r s).mem_iff.1 (List.mem_append_right _ he)

/-- What waits for an earlier nonce has waited before, or has just been accepted for that. -/
theorem mem_future_step {op : Op} {e : PoolEntry} (he : e ∈ (s.step r op).future) :
    e ∈ s.future ∨ ∃ x watched call, op = .submit x watched ∧
      s.validate r x = .ok (call, .future) ∧ e.extrinsic = x := by
  cases op with
  | submit x watched =>
    replace he : e ∈ (s.submit r x watched).2.future := he
    rcases State.submit_cases r x watched s with ⟨failure, heq⟩ |
      ⟨call, placement, -, hvalid, heq⟩
    · rw [heq] at he
      exact .inl he
    · have haccept : e ∈ (s.accept r x watched call placement).future := by
        rw [heq] at he
        unfold State.sealIfInstant at he
        split at he
        · exact mem_future_sealBlock he
        · exact he
      rcases mem_future_accept haccept with hbefore | ⟨rfl, hx⟩
      · exact .inl hbefore
      · exact .inr ⟨x, watched, call, rfl, hvalid, hx⟩
  | block =>
    replace he : e ∈ (s.requestSeal r).2.future := he
    cases hclosed : s.closed with
    | true =>
      rw [State.requestSeal_of_closed hclosed] at he
      exact .inl he
    | false =>
      rw [State.requestSeal_of_open hclosed] at he
      exact .inl (mem_future_sealBlock he)
  | fund account free => exact .inl he
  | close =>
    replace he : e ∈ s.close.future := he
    unfold State.close at he
    split at he
    · exact .inl he
    · cases he

end State

/-! ## One winner for each nonce -/

/-- No two accepted transactions share account and nonce. -/
theorem Chronicle.Accounted.accepted_apart {r : Rules} {h : Chronicle} (haccounted : Accounted r h) :
    h.accepted.Pairwise fun x y => ¬(x.signer = y.signer ∧ x.nonce = y.nonce) := by
  have hplaces : ((h.executed ++ h.state.ready ++ h.state.future).map (·.extrinsic)).Pairwise
      fun x y => ¬(x.signer = y.signer ∧ x.nonce = y.nonce) :=
    List.pairwise_map.2 haccounted.apart
  refine haccounted.places.pairwise hplaces ?_
  intro x y hxy hyx
  exact hxy ⟨hyx.1.symm, hyx.2.symm⟩

end MetaLedger.Ledger
