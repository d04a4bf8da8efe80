import MetaLedger.Proofs.Ledger.History

/-!
# What the pool decides

Of a transaction that is signed for the chain, reads as a call and can be paid for, the pool looks at the
nonce alone. An account's own nonce and the one that is next divide the nonces into those that are used,
those that are taken by ready transactions, the next one, the 64 behind it, and the rest (`nonceRule`).

The check that is made does not look so: it compares with the account's own nonce, searches the pool, and
has everything wait that is not far ahead. That no nonce between the two is ever made to wait is due to
the ready transactions, which carry all of these (`Steady.isPending_iff`). Hence in every state that a
ledger reaches, the answer to a submission can be told from the nonces (`run_admission`).
-/

namespace MetaLedger.Ledger

/-- The account has a free balance, if that is asked for. -/
def Rules.CanPay (r : Rules) (e : Entries) (a : AccountId) : Prop :=
  r.requireFunded = true → ∃ info, r.accountInfo? e a = some info ∧ info.free ≠ 0

/-- The transaction is signed for the ledger's chain, and its call reads as one of the module's. -/
def Rules.Checks (r : Rules) (x : Extrinsic) : Prop :=
  (∃ u, x.verify r.chain = .ok u) ∧ (r.call? x.call).isSome

namespace State

variable {r : Rules} {s : State} {taken : Nat} {x : Extrinsic} {call : Call} {watched : Bool}

theorem Valid.checks {placement : Placement} (h : s.Valid r x call placement) : r.Checks x :=
  ⟨h.verified, by rw [h.call_eq]; rfl⟩

theorem canPay_iff (a : AccountId) :
    r.CanPay s.best a ↔ (r.requireFunded && s.isUnfunded r a) = false := by
  unfold Rules.CanPay isUnfunded
  cases r.requireFunded with
  | false => simp
  | true =>
    cases r.accountInfo? s.best a with
    | none => simp
    | some info => simp

/-! ## The rule -/

/-- What a nonce comes to, by the account's own nonce, the one that is next, and whether a transaction
behind the gap has it. -/
def nonceRule (own next : Nat) (isHeld : Bool) (nonce : Nat) : Except Node.Rejection Placement :=
  if nonce < own then .error .stale
  else if nonce < next ∨ isHeld then .error .priorityTooLow
  else if nonce = next then .ok .ready
  else if nonce ≤ next + maxFutureGap then .ok .future
  else .error .future

/-- A transaction behind the gap has the account and nonce. -/
def isHeld (s : State) (a : AccountId) (nonce : Nonce) : Bool :=
  s.future.any fun e => e.signer = a && e.nonce = nonce

theorem isHeld_iff {a : AccountId} {nonce : Nonce} :
    s.isHeld a nonce = true ↔ ∃ e ∈ s.future, e.signer = a ∧ e.nonce = nonce := by
  unfold isHeld
  rw [List.any_eq_true]
  refine exists_congr fun e => and_congr_right fun _ => ?_
  rw [Bool.and_eq_true, decide_eq_true_eq, decide_eq_true_eq]

/-- Of the nonces that are not used, those are pending that come before the next one, and those that
are held. -/
theorem Steady.isPending_iff (h : Steady r s taken) {a : AccountId} {nonce : Nonce}
    (hfresh : (r.nonce s.best a).toNat ≤ nonce.toNat) :
    s.isPending a nonce = true ↔ nonce.toNat < nextNonce r s a ∨ s.isHeld a nonce = true := by
  have hready : (∃ e ∈ s.ready, e.signer = a ∧ e.nonce = nonce) ↔ nonce.toNat < nextNonce r s a := by
    rw [h.pooled.exists_ready_iff]
    exact and_iff_right hfresh
  rw [← hready]
  unfold isPending isHeld
  rw [List.any_append, Bool.or_eq_true, List.any_eq_true]
  refine or_congr_left (exists_congr fun e => and_congr_right fun _ => ?_)
  rw [Bool.and_eq_true, decide_eq_true_eq, decide_eq_true_eq]

theorem place_eq {expected nonce : Nonce} :
    place expected nonce =
      if nonce.toNat = expected.toNat then .ok .ready
      else if nonce.toNat ≤ expected.toNat + maxFutureGap then .ok .future
      else .error .future := by
  unfold place
  by_cases hnext : nonce = expected
  · rw [if_pos hnext, if_pos (congrArg UInt32.toNat hnext)]
  · have hne : nonce.toNat ≠ expected.toNat := fun heq => hnext (UInt32.toNat_inj.1 heq)
    rw [if_neg hnext, if_neg hne]
    by_cases hgap : maxFutureGap < nonce.toNat - expected.toNat
    · rw [if_pos hgap, if_neg (by omega)]
    · rw [if_neg hgap, if_pos (by omega)]

/-- **The check is the rule.** -/
theorem Steady.validate_eq (h : Steady r s taken) (few : taken < UInt32.size)
    (hverify : x.verify r.chain = .ok ()) (hcall : r.call? x.call = some call)
    (hpay : r.CanPay s.best x.signer) :
    s.validate r x =
      (nonceRule (r.nonce s.best x.signer).toNat (nextNonce r s x.signer)
        (s.isHeld x.signer x.nonce) x.nonce.toNat).map (call, ·) := by
  have hnext : (expectedNonce r s.best s.ready x.signer).toNat = nextNonce r s x.signer :=
    toNat_expectedNonce (h.pooled.nextNonce_lt few x.signer)
  have hfunded := (canPay_iff x.signer).1 hpay
  unfold validate nonceRule
  simp only [hverify, hcall, hfunded, Bool.false_eq_true, if_false, UInt32.lt_iff_toNat_lt]
  by_cases hstale : x.nonce.toNat < (r.nonce s.best x.signer).toNat
  · rw [if_pos hstale, if_pos hstale]
    rfl
  · have hpending := h.isPending_iff (Nat.not_lt.1 hstale)
    rw [if_neg hstale, if_neg hstale]
    by_cases htaken : s.isPending x.signer x.nonce = true
    · rw [if_pos htaken, if_pos (hpending.1 htaken)]
      rfl
    · rw [if_neg htaken, if_neg (mt hpending.2 htaken), ← hnext, ← place_eq]
      cases place (expectedNonce r s.best s.ready x.signer) x.nonce <;> rfl

section Rule

variable {own next nonce : Nat} {isHeld : Bool} (hown : own ≤ next)
  (hheld : isHeld = true → next < nonce ∧ nonce ≤ next + maxFutureGap)

theorem nonceRule_eq_stale_iff :
    nonceRule own next isHeld nonce = .error .stale ↔ nonce < own := by
  grind [nonceRule]

include hown hheld

theorem nonceRule_eq_priorityTooLow_iff :
    nonceRule own next isHeld nonce = .error .priorityTooLow ↔
      own ≤ nonce ∧ nonce < next ∨ isHeld = true := by
  grind [nonceRule]

theorem nonceRule_eq_ready_iff :
    nonceRule own next isHeld nonce = .ok .ready ↔ nonce = next := by
  grind [nonceRule]

theorem nonceRule_eq_held_iff :
    nonceRule own next isHeld nonce = .ok .future ↔
      next < nonce ∧ nonce ≤ next + maxFutureGap ∧ isHeld = false := by
  grind [nonceRule]

theorem nonceRule_eq_future_iff :
    nonceRule own next isHeld nonce = .error .future ↔ next + maxFutureGap < nonce := by
  grind [nonceRule]

end Rule

/-! ## The answer -/

theorem submit_eq_rejected_iff (hopen : s.closed = false) (watched : Bool) {reason : Node.Rejection} :
    (s.submit r x watched).1 = .error (.rejected reason) ↔ s.validate r x = .error reason := by
  cases hvalid : s.validate r x with
  | error other =>
    rw [submit_of_error hopen hvalid]
    simp
  | ok result =>
    obtain ⟨call, placement⟩ := result
    rw [submit_of_ok hopen hvalid]
    simp

section Refused

variable (hopen : s.closed = false) (hchecks : r.Checks x)

include hopen hchecks

theorem submit_payment (hpay : ¬r.CanPay s.best x.signer) (watched : Bool) :
    (s.submit r x watched).1 = .error (.rejected .payment) := by
  obtain ⟨⟨u, hverify⟩, hcall⟩ := hchecks
  obtain ⟨call, hcall⟩ := Option.isSome_iff_exists.1 hcall
  rw [canPay_iff, Bool.not_eq_false] at hpay
  rw [submit_eq_rejected_iff hopen]
  unfold validate
  simp only [hverify, hcall, hpay, if_true]

theorem submit_stale (hpay : r.CanPay s.best x.signer) (hstale : x.nonce < r.nonce s.best x.signer)
    (watched : Bool) : (s.submit r x watched).1 = .error (.rejected .stale) := by
  obtain ⟨⟨u, hverify⟩, hcall⟩ := hchecks
  obtain ⟨call, hcall⟩ := Option.isSome_iff_exists.1 hcall
  rw [canPay_iff] at hpay
  rw [submit_eq_rejected_iff hopen]
  unfold validate
  simp only [hverify, hcall, hpay, hstale, if_true, Bool.false_eq_true, if_false]

end Refused

section Accepted

variable (hopen : s.closed = false)

include hopen

/-- A transaction whose turn it is waits for the next block, or is in one already. No more than before
wait for an earlier nonce. -/
theorem submit_ready (hvalid : s.validate r x = .ok (call, .ready)) (watched : Bool) :
    (s.submit r x watched).1 = .ok x.hash ∧
      ⟨x.hash, x, call⟩ ∈ (s.submit r x watched).2.ready ++ s.executes r (.submit x watched) ∧
      (s.submit r x watched).2.future.length ≤ s.future.length := by
  have hready : ⟨x.hash, x, call⟩ ∈ (s.accept r x watched call .ready).ready := by
    rw [accept_ready]
    exact List.mem_append_right _ List.mem_cons_self
  have hfuture : (s.accept r x watched call .ready).future.length ≤ s.future.length := by
    have hdue := (due_perm x.signer (expectedNonce r s.best s.ready x.signer + 1) s.future).length_eq
    rw [List.length_append] at hdue
    rw [accept_future]
    show (due x.signer _ s.future).2.length ≤ _
    omega
  unfold executes
  simp only [submit_of_ok hopen hvalid, hvalid, true_and]
  cases hmode : r.sealMode with
  | manual =>
    rw [sealIfInstant_of_manual hmode]
    exact ⟨List.mem_append_left _ hready, hfuture⟩
  | instant =>
    rw [sealIfInstant_of_ready hmode (List.ne_nil_of_mem hready), if_pos rfl]
    have hseal := (sealBlock_perm r (s.accept r x watched call .ready)).length_eq
    rw [List.length_append] at hseal
    exact ⟨List.mem_append_right _ hready, by omega⟩

/-- A transaction that waits for an earlier nonce is put behind the others that do. -/
theorem submit_held (hvalid : s.validate r x = .ok (call, .future))
    (hinstant : r.sealMode = .instant → s.ready = []) (watched : Bool) :
    (s.submit r x watched).1 = .ok x.hash ∧
      (s.submit r x watched).2.future = s.future ++ [⟨x.hash, x, call⟩] ∧
      ⟨x.hash, x, call⟩ ∉ (s.submit r x watched).2.ready ++ s.executes r (.submit x watched) := by
  have hready : (s.accept r x watched call .future).ready = s.ready := by
    rw [accept_ready]
    exact List.append_nil _
  have hfuture : (s.accept r x watched call .future).future = s.future ++ [⟨x.hash, x, call⟩] :=
    accept_future r x watched call .future s
  unfold executes
  simp only [submit_of_ok hopen hvalid, hvalid, true_and]
  cases hmode : r.sealMode with
  | manual =>
    rw [sealIfInstant_of_manual hmode, hready, if_neg (by decide), List.append_nil]
    refine ⟨hfuture, fun hmem => ?_⟩
    have hpending := isPending_eq_false_iff.1 (validate_eq_ok_iff.1 hvalid).not_pending
    exact hpending _ (List.mem_append_left _ hmem) rfl rfl
  | instant =>
    have hempty := hready.trans (hinstant hmode)
    rw [sealIfInstant_of_empty hempty, hempty, if_pos rfl]
    exact ⟨hfuture, List.not_mem_nil⟩

end Accepted

/-! ## Every state -/

/-- What becomes of a transaction that passes the other checks, by its nonce. -/
structure NonceRule (r : Rules) (s : State) (x : Extrinsic) (call : Call) (watched : Bool) : Prop where
  stale : (s.submit r x watched).1 = .error (.rejected .stale) ↔
    x.nonce.toNat < (r.nonce s.best x.signer).toNat
  priorityTooLow : (s.submit r x watched).1 = .error (.rejected .priorityTooLow) ↔
    (r.nonce s.best x.signer).toNat ≤ x.nonce.toNat ∧ x.nonce.toNat < nextNonce r s x.signer ∨
      ∃ e ∈ s.future, e.signer = x.signer ∧ e.nonce = x.nonce
  /-- It is accepted, and is in the next block or in one already. -/
  ready : ((s.submit r x watched).1 = .ok x.hash ∧
    ⟨x.hash, x, call⟩ ∈ (s.submit r x watched).2.ready ++ s.executes r (.submit x watched)) ↔
      x.nonce.toNat = nextNonce r s x.signer
  /-- It is accepted, and waits for an earlier nonce. -/
  held : ((s.submit r x watched).1 = .ok x.hash ∧
    (s.submit r x watched).2.future = s.future ++ [⟨x.hash, x, call⟩]) ↔
      nextNonce r s x.signer < x.nonce.toNat ∧ x.nonce.toNat ≤ nextNonce r s x.signer + 64 ∧
        ¬∃ e ∈ s.future, e.signer = x.signer ∧ e.nonce = x.nonce
  future : (s.submit r x watched).1 = .error (.rejected .future) ↔
    nextNonce r s x.signer + 64 < x.nonce.toNat

theorem Steady.nonceRule (h : Steady r s taken) (few : taken < UInt32.size)
    (hinstant : r.sealMode = .instant → s.ready = []) (hopen : s.closed = false)
    (hverify : x.verify r.chain = .ok ()) (hcall : r.call? x.call = some call)
    (hpay : r.CanPay s.best x.signer) (watched : Bool) : NonceRule r s x call watched := by
  have hown : (r.nonce s.best x.signer).toNat ≤ nextNonce r s x.signer := Nat.le_add_right _ _
  have hheld : s.isHeld x.signer x.nonce = true →
      nextNonce r s x.signer < x.nonce.toNat ∧
        x.nonce.toNat ≤ nextNonce r s x.signer + maxFutureGap := by
    intro hheld
    obtain ⟨e, he, hsigner, hnonce⟩ := isHeld_iff.1 hheld
    rw [← hsigner, ← hnonce]
    exact ⟨h.ahead e he, h.pooled.near e he⟩
  have hvalidate := h.validate_eq few hverify hcall hpay
  have hrejected : ∀ reason, (s.submit r x watched).1 = .error (.rejected reason) ↔
      State.nonceRule (r.nonce s.best x.signer).toNat (nextNonce r s x.signer)
        (s.isHeld x.signer x.nonce) x.nonce.toNat = .error reason := by
    intro reason
    rw [submit_eq_rejected_iff hopen, hvalidate]
    cases State.nonceRule _ _ _ _ <;> simp [Except.map]
  have haccepted : (s.submit r x watched).1 = .ok x.hash →
      ∃ placement, s.validate r x = .ok (call, placement) ∧
        State.nonceRule (r.nonce s.best x.signer).toNat (nextNonce r s x.signer)
          (s.isHeld x.signer x.nonce) x.nonce.toNat = .ok placement := by
    intro hreply
    cases hrule : State.nonceRule (r.nonce s.best x.signer).toNat (nextNonce r s x.signer)
        (s.isHeld x.signer x.nonce) x.nonce.toNat with
    | error reason =>
      rw [(hrejected reason).2 hrule] at hreply
      cases hreply
    | ok placement =>
      rw [hrule] at hvalidate
      exact ⟨placement, hvalidate, rfl⟩
  refine ⟨?_, ?_, ?_, ?_, ?_⟩
  · rw [hrejected, nonceRule_eq_stale_iff]
  · rw [hrejected, nonceRule_eq_priorityTooLow_iff hown hheld, isHeld_iff]
  · rw [← nonceRule_eq_ready_iff hown hheld]
    constructor
    · rintro ⟨hreply, hmem⟩
      obtain ⟨placement, hvalid, hrule⟩ := haccepted hreply
      cases placement with
      | ready => exact hrule
      | future => exact absurd hmem (submit_held hopen hvalid hinstant watched).2.2
    · intro hrule
      rw [hrule] at hvalidate
      obtain ⟨hreply, hmem, -⟩ := submit_ready hopen hvalidate watched
      exact ⟨hreply, hmem⟩
  · rw [← isHeld_iff, Bool.not_eq_true]
    refine Iff.trans ?_ (nonceRule_eq_held_iff hown hheld)
    constructor
    · rintro ⟨hreply, hfuture⟩
      obtain ⟨placement, hvalid, hrule⟩ := haccepted hreply
      cases placement with
      | ready =>
        have hlength := (submit_ready hopen hvalid watched).2.2
        rw [hfuture, List.length_append, List.length_singleton] at hlength
        omega
      | future => exact hrule
    · intro hrule
      rw [hrule] at hvalidate
      obtain ⟨hreply, hfuture, -⟩ := submit_held hopen hvalidate hinstant watched
      exact ⟨hreply, hfuture⟩
  · rw [hrejected, nonceRule_eq_future_iff hown hheld]
    rfl

/-- How a ledger decides on a transaction: by the first check that it fails, and else by its nonce. A
transaction that is refused leaves no trace. -/
structure Admission (r : Rules) (s : State) (x : Extrinsic) (watched : Bool) : Prop where
  badProof : ∀ e, x.verify r.chain = .error e →
    (s.submit r x watched).1 = .error (.rejected .badProof)
  malformed : x.verify r.chain = .ok () → r.call? x.call = none →
    (s.submit r x watched).1 = .error (.rejected .malformed)
  payment : x.verify r.chain = .ok () → (r.call? x.call).isSome → ¬r.CanPay s.best x.signer →
    (s.submit r x watched).1 = .error (.rejected .payment)
  nonce : ∀ call, x.verify r.chain = .ok () → r.call? x.call = some call →
    r.CanPay s.best x.signer → NonceRule r s x call watched
  unchanged : ∀ e, (s.submit r x watched).1 = .error e → (s.submit r x watched).2 = s

theorem Steady.admission (h : Steady r s taken) (few : taken < UInt32.size)
    (hinstant : r.sealMode = .instant → s.ready = []) (hopen : s.closed = false) (x : Extrinsic)
    (watched : Bool) : Admission r s x watched := by
  refine ⟨?_, ?_, ?_, ?_, fun e => submit_refused⟩
  · intro e hverify
    rw [submit_eq_rejected_iff hopen]
    unfold validate
    simp only [hverify]
  · intro hverify hcall
    rw [submit_eq_rejected_iff hopen]
    unfold validate
    simp only [hverify, hcall]
  · intro hverify hcall hpay
    exact submit_payment hopen ⟨⟨(), hverify⟩, hcall⟩ hpay watched
  · intro call hverify hcall hpay
    exact h.nonceRule few hinstant hopen hverify hcall hpay watched

/-- **The pool decides by the nonce.** In every open state that a ledger reaches, whoever hands in a
transaction can tell the answer from the transaction, the account and the pool. -/
theorem run_admission (c : Config) (separate : (StorageKeys.ofLayout c.layout).Separate)
    (ops : List Op) (few : Op.Few ops) :
    let r := Rules.ofConfig c
    let s := (State.initial r).run r ops
    s.closed = false → ∀ x watched, Admission r s x watched := by
  intro r s hopen x watched
  have hfew : 0 + Op.submissions ops < UInt32.size - 1 := by
    rw [Nat.zero_add]
    exact few
  have hsteady : Steady r s _ := (Steady.initial r).run separate ops hfew
  refine hsteady.admission (Nat.lt_of_lt_pred hfew) (fun hinstant => ?_) hopen x watched
  exact (Steady.initial r).ready_run separate hinstant rfl ops hfew

open Ed25519 (neutralKey) in
/-- An account that has sent nothing yet may be 64 nonces ahead. -/
theorem run_admission_ahead :
    let r := Rules.ofConfig { sealMode := .manual, requireFunded := true }
    let s := (State.initial r).run r [.fund ⟨neutralKey⟩ 9]
    let call := Call.set [7] [2] []
    let wire := call.encodeAt (r.indices.callIndex .set)
    let x := Extrinsic.neutral neutralKey 64 wire
    (s.submit r x true).2.future = s.future ++ [⟨x.hash, x, call⟩] ∧
      s.submit r (.neutral neutralKey 65 wire) true = (.error (.rejected .future), s) := by
  intro r s call wire x
  have separate : (StorageKeys.ofLayout {}).Separate := by decide +kernel
  have hadmission : ∀ x watched, Admission r s x watched :=
    run_admission { sealMode := .manual, requireFunded := true } separate _ (by decide +kernel) rfl
  have hnext : nextNonce r s ⟨neutralKey⟩ = 0 := by decide +kernel
  have hfree : (r.accountInfo? s.best ⟨neutralKey⟩).map (·.free) = some 9 := by decide +kernel
  have hcall : r.call? wire = some call := by decide +kernel
  have hpay : r.CanPay s.best ⟨neutralKey⟩ := by
    obtain ⟨info, hinfo, hfree⟩ := Option.map_eq_some_iff.1 hfree
    exact fun _ => ⟨info, hinfo, by rw [hfree]; decide⟩
  have hverify := fun nonce =>
    Extrinsic.verify_neutral Ed25519.neutralKey_namesNeutral nonce wire r.chain
  have hx := (hadmission x true).nonce call (hverify 64) hcall hpay
  have hy := (hadmission (.neutral neutralKey 65 wire) true).nonce call (hverify 65) hcall hpay
  have hheld := hx.held.2 ⟨Nat.lt_of_le_of_lt (Nat.le_of_eq hnext) (by decide), Nat.le_add_left _ _,
    fun ⟨_, he, _⟩ => absurd he List.not_mem_nil⟩
  have hbeyond : nextNonce r s ⟨neutralKey⟩ + 64 < 65 := by
    rw [hnext]
    decide
  have hfar := hy.future.2 hbeyond
  exact ⟨hheld.2, Prod.ext hfar ((hadmission _ true).unchanged _ hfar)⟩

end State

end MetaLedger.Ledger
