import Mathlib.Data.List.Induction
import MetaLedger.Proofs.Ledger.Admission
import MetaLedger.Proofs.Ledger.Contention
import MetaLedger.Proofs.Ledger.Effects

/-!
# The accounts that a ledger knows

A ledger files the state of an account when it is funded, or when a transaction of it is executed,
whatever becomes of the call, and keeps it from then on. So it knows the accounts that were introduced
to it in one of the two ways, and no others (`Chronicle.knows_run_iff`). Whether it knows an account or
not, it measures the account's transactions by one nonce (`Measures`), and one that is at this nonce is
not refused for it, if the account has nothing in the pool (`State.Untouched.validate_cases`).
-/

namespace MetaLedger

/-- The reasons for a refusal that lie in the nonce. -/
def Node.Rejection.OfNonce : Node.Rejection → Prop
  | stale | future | priorityTooLow => True
  | badProof | payment | malformed => False

namespace Ledger

/-! ## What is filed -/

/-- The state of the account is filed. -/
def Rules.Knows (r : Rules) (e : Entries) (a : AccountId) : Prop :=
  ∃ info, r.accountInfo? e a = some info

namespace Rules

variable {r : Rules} (e : Entries) (a : AccountId)

theorem knows_insert_iff (b : AccountId) (info : AccountInfo) :
    r.Knows (e.insert (r.keys.accountAddress b) info.encode) a ↔ r.Knows e a ∨ b = a := by
  unfold Knows
  rw [accountInfo?_insert]
  by_cases same : a = b
  · simp [same]
  · simp [same, Ne.symm same]

theorem nonce_eq_zero (h : ¬r.Knows e a) : r.nonce e a = 0 := by
  unfold Rules.nonce
  cases hinfo : r.accountInfo? e a with
  | none => rfl
  | some info => exact absurd ⟨info, hinfo⟩ h

variable (disjoint : r.keys.Disjoint)

include disjoint

theorem knows_execute_iff (tx : PoolEntry) :
    r.Knows (r.execute e tx).1 a ↔ r.Knows e a ∨ tx.signer = a := by
  unfold Knows
  rw [accountInfo?_execute disjoint]
  exact knows_insert_iff e a tx.signer _

theorem knows_executeAll_iff (txs : List PoolEntry) :
    r.Knows (r.executeAll e txs).1 a ↔ r.Knows e a ∨ ∃ tx ∈ txs, tx.signer = a := by
  induction txs generalizing e with
  | nil => simp [executeAll]
  | cons tx rest ih =>
    have hrest : (∃ other ∈ tx :: rest, other.signer = a) ↔
        tx.signer = a ∨ ∃ other ∈ rest, other.signer = a := by simp
    show r.Knows (r.executeAll (r.execute e tx).1 rest).1 a ↔ _
    rw [ih, knows_execute_iff e a disjoint, or_assoc, hrest]

end Rules

/-! ## Introductions -/

/-- The account was funded, or a transaction of it was executed. -/
def Introduced (ops : List Op) (executed : List PoolEntry) (a : AccountId) : Prop :=
  (∃ free, .fund a free ∈ ops) ∨ ∃ tx ∈ executed, tx.signer = a

theorem introduced_append_iff {before ops : List Op} {executed more : List PoolEntry}
    {a : AccountId} :
    Introduced (before ++ ops) (executed ++ more) a ↔
      Introduced before executed a ∨ Introduced ops more a := by
  unfold Introduced
  simp only [List.mem_append, or_and_right, exists_or]
  exact or_or_or_comm

section Steps

variable {r : Rules} (disjoint : r.keys.Disjoint) {a : AccountId}

include disjoint

theorem State.knows_sealBlock_iff (s : State) :
    r.Knows (s.sealBlock r).best a ↔ r.Knows s.best a ∨ ∃ tx ∈ s.ready, tx.signer = a := by
  rw [sealBlock_best]
  exact Rules.knows_executeAll_iff s.best a disjoint s.ready

/-- Of what happens to others, only what is executed makes an account known. -/
theorem State.Effect.knows_iff {s t : State} {op : Op} {accepted : List Extrinsic}
    {executed : List PoolEntry} (h : Effect r s op accepted executed t)
    (hop : ∀ free, op ≠ .fund a free) :
    r.Knows t.best a ↔ r.Knows s.best a ∨ ∃ tx ∈ executed, tx.signer = a := by
  cases h with
  | nothing => simp
  | queued => simp [accept_best]
  | included => rw [knows_sealBlock_iff disjoint, accept_best]
  | sealed => exact knows_sealBlock_iff disjoint s
  | funded account free =>
    have hother : account ≠ a := by
      rintro rfl
      exact hop free rfl
    show r.Knows (s.best.insert (r.keys.accountAddress account) (AccountInfo.encode _)) a ↔ _
    rw [Rules.knows_insert_iff]
    simp [hother]
  | closed hopen =>
    unfold State.close
    simp [hopen]

/-- **One operation** introduces an account, or leaves it known or unknown. -/
theorem State.knows_step_iff (s : State) (op : Op) :
    r.Knows (s.step r op).best a ↔ r.Knows s.best a ∨ Introduced [op] (s.executes r op) a := by
  by_cases hop : ∃ free, op = .fund a free
  · obtain ⟨free, rfl⟩ := hop
    refine iff_of_true ?_ (.inr (.inl ⟨free, List.mem_singleton_self _⟩))
    exact (Rules.knows_insert_iff s.best a a _).2 (.inr rfl)
  · have hother : ∀ free, op ≠ .fund a free := fun free heq => hop ⟨free, heq⟩
    have hfunded : ¬∃ free, Op.fund a free ∈ [op] := by
      rintro ⟨free, hmem⟩
      exact hother free (List.mem_singleton.1 hmem).symm
    rw [(effect_step r s op).knows_iff disjoint hother]
    unfold Introduced
    rw [or_iff_right hfunded]

/-- **Every run.** A ledger knows the accounts that were funded or had a transaction executed. -/
theorem Chronicle.knows_run_iff (ops : List Op) :
    r.Knows ((initial r).run r ops).state.best a ↔
      Introduced ops ((initial r).run r ops).executed a := by
  induction ops using List.reverseRecOn with
  | nil =>
    refine iff_of_false ?_ ?_
    · rintro ⟨info, hinfo⟩
      cases hinfo
    · rintro (⟨free, hmem⟩ | ⟨tx, hmem, -⟩) <;> cases hmem
  | append_singleton ops op ih =>
    have hrun : (initial r).run r (ops ++ [op]) = ((initial r).run r ops).step r op :=
      List.foldl_append
    rw [hrun]
    show r.Knows (State.step r _ op).best a ↔ Introduced (ops ++ [op]) (_ ++ _) a
    rw [State.knows_step_iff disjoint, introduced_append_iff, ih]

end Steps

/-! ## The nonce of an account -/

/-- The nonce is the one by which the pool measures the transactions of the account: those below it are
stale, and the next one follows those that are ready. -/
structure Measures (r : Rules) (s : State) (a : AccountId) (n : Nonce) : Prop where
  nonce : r.nonce s.best a = n
  stale : ∀ x watched, x.signer = a → r.Checks x → r.CanPay s.best a →
    ((s.submit r x watched).1 = .error (.rejected .stale) ↔ x.nonce < n)
  next : State.expectedNonce r s.best s.ready a = n + State.readyCount s.ready a

section Measures

variable {r : Rules} {s : State} {x : Extrinsic}

/-- A place is refused only for being too far ahead. -/
theorem State.eq_future_of_place {expected nonce : Nonce} {reason : Node.Rejection}
    (h : place expected nonce = .error reason) : reason = .future := by
  unfold place at h
  by_cases hnext : nonce = expected
  · rw [if_pos hnext] at h
    cases h
  · rw [if_neg hnext] at h
    by_cases hgap : maxFutureGap < nonce.toNat - expected.toNat
    · rw [if_pos hgap] at h
      cases h
      rfl
    · rw [if_neg hgap] at h
      cases h

theorem State.validate_eq_stale_iff (hchecks : r.Checks x) (hpay : r.CanPay s.best x.signer) :
    s.validate r x = .error .stale ↔ x.nonce < r.nonce s.best x.signer := by
  obtain ⟨⟨u, hverify⟩, hcall⟩ := hchecks
  obtain ⟨call, hcall⟩ := Option.isSome_iff_exists.1 hcall
  rw [canPay_iff] at hpay
  unfold validate
  simp only [hverify, hcall, hpay, Bool.false_eq_true, if_false]
  by_cases hstale : x.nonce < r.nonce s.best x.signer
  · simp only [hstale, if_true]
  · rw [if_neg hstale]
    refine iff_of_false (fun h => ?_) hstale
    cases hpending : s.isPending x.signer x.nonce with
    | true =>
      rw [hpending, if_pos rfl] at h
      cases h
    | false =>
      simp only [hpending, Bool.false_eq_true, if_false] at h
      cases hplace : place (expectedNonce r s.best s.ready x.signer) x.nonce with
      | ok placement =>
        rw [hplace] at h
        cases h
      | error reason =>
        rw [hplace] at h
        cases h
        cases eq_future_of_place hplace

theorem measures_nonce (hopen : s.closed = false) (a : AccountId) :
    Measures r s a (r.nonce s.best a) where
  nonce := rfl
  stale x watched hsigner hchecks hpay := by
    subst hsigner
    rw [State.submit_eq_rejected_iff hopen, State.validate_eq_stale_iff hchecks hpay]
  next := rfl

/-- A transaction of an account with nothing in the pool, at the account's nonce, is next; or it is
refused, but not for its nonce. -/
theorem State.Untouched.validate_cases {a : AccountId} {n : Nonce} (h : s.Untouched r a n)
    (hsigner : x.signer = a) (hnonce : x.nonce = n) :
    (∃ call, s.validate r x = .ok (call, .ready)) ∨
      ∃ reason : Node.Rejection, ¬reason.OfNonce ∧ s.validate r x = .error reason := by
  cases hverify : x.verify r.chain with
  | error failure =>
    refine .inr ⟨.badProof, id, ?_⟩
    unfold State.validate
    simp only [hverify]
  | ok u =>
    cases hcall : r.call? x.call with
    | none =>
      refine .inr ⟨.malformed, id, ?_⟩
      unfold State.validate
      simp only [hverify, hcall]
    | some call =>
      cases hfunded : r.requireFunded && s.isUnfunded r x.signer with
      | true =>
        refine .inr ⟨.payment, id, ?_⟩
        unfold State.validate
        simp only [hverify, hcall, hfunded, if_true]
      | false =>
        refine .inl ⟨call, validate_eq_ok_iff.2 ?_⟩
        exact h.valid hfunded ⟨u, hverify⟩ hcall hsigner hnonce

end Measures

end Ledger

end MetaLedger
