import MetaLedger.Proofs.Ledger.Funding
import MetaLedger.Proofs.Ledger.PoolInvariant

/-!
# It does not matter where blocks are sealed

Two ledgers are given the same transactions and the same funds. One seals a block as soon as a
transaction is ready, the other one now and then. At every point, the first one is the second one with
its ready transactions in a block (`Sealed`), and so they refuse the same transactions, hold back the
same ones, and come to the same entries and the same events once the second one seals a last block
(`run_sealsAlike`).

A transaction is checked before its predecessors are executed in one ledger, and afterwards in the
other. What the check reads of the entries is the nonce, which executing moves past the ready
transactions, and the free balance, which executing leaves alone. A nonce among the ready transactions
is pending in one ledger and stale in the other; that is the one answer that differs.
-/

namespace MetaLedger.Ledger

/-- The same rules, with blocks sealed at other times. -/
def Rules.withMode (r : Rules) (mode : SealMode) : Rules := { r with sealMode := mode }

theorem Rules.executeAll_withMode (r : Rules) (mode : SealMode) (e : Entries)
    (txs : List PoolEntry) : (r.withMode mode).executeAll e txs = r.executeAll e txs :=
  executeAll_congr (r := r.withMode mode) (q := r) rfl e txs

namespace State

variable {r : Rules} {s t u : State} {taken : Nat}

theorem Sealed.of_withMode {mode : SealMode} (h : Sealed (r.withMode mode) s t) : Sealed r s t := by
  obtain ⟨hbest, hready, hfuture, hlog, hclosed⟩ := h
  rw [Rules.executeAll_withMode] at hbest hlog
  exact ⟨hbest, hready, hfuture, hlog, hclosed⟩

/-! ## Checking -/

theorem validate_withMode (r : Rules) (mode : SealMode) (s : State) (x : Extrinsic) :
    s.validate (r.withMode mode) x = s.validate r x := by
  have hchain : (r.withMode mode).chain = r.chain := rfl
  have hcall : (r.withMode mode).call? x.call = r.call? x.call := rfl
  have hrequire : (r.withMode mode).requireFunded = r.requireFunded := rfl
  have hfunds : s.isUnfunded (r.withMode mode) x.signer = s.isUnfunded r x.signer := rfl
  have hnonce : (r.withMode mode).nonce s.best x.signer = r.nonce s.best x.signer := rfl
  have hexpected : expectedNonce (r.withMode mode) s.best s.ready x.signer =
      expectedNonce r s.best s.ready x.signer := rfl
  unfold validate
  rw [hchain, hcall, hrequire, hfunds, hnonce, hexpected]

section Checking

variable (separate : r.keys.Separate)

theorem isUnfunded_eq (r : Rules) (s : State) (a : AccountId) :
    s.isUnfunded r a = decide (r.free s.best a = 0) := by
  unfold isUnfunded Rules.free
  cases r.accountInfo? s.best a with
  | none => rfl
  | some info => rfl

include separate in
theorem Sealed.isUnfunded_eq (h : Sealed r s t) (a : AccountId) :
    t.isUnfunded r a = s.isUnfunded r a := by
  rw [State.isUnfunded_eq, State.isUnfunded_eq, h.best, Rules.free_executeAll separate]

include separate in
theorem Sealed.toNat_nonce (h : Sealed r s t) (hpool : Pooled r s taken)
    (few : taken < UInt32.size) (a : AccountId) :
    (r.nonce t.best a).toNat = nextNonce r s a := by
  rw [h.best]
  exact Rules.toNat_nonce_executeAll separate.disjoint s.best s.ready a
    (hpool.nextNonce_lt few a)

include separate in
theorem Sealed.expectedNonce_eq (h : Sealed r s t) (hpool : Pooled r s taken)
    (few : taken < UInt32.size) (a : AccountId) :
    expectedNonce r t.best t.ready a = expectedNonce r s.best s.ready a := by
  have hcount : readyCount t.ready a = 0 := by
    rw [h.ready]
    rfl
  refine UInt32.toNat_inj.1 ?_
  rw [toNat_expectedNonce (hpool.nextNonce_lt few a), ← h.toNat_nonce separate hpool few, expectedNonce, hcount,
    UInt32.add_zero]

theorem isPending_of_ready {e : PoolEntry} (he : e ∈ s.ready) :
    s.isPending e.signer e.nonce = true := by
  unfold isPending
  refine List.any_eq_true.2 ⟨e, List.mem_append_left _ he, ?_⟩
  rw [decide_eq_true rfl, decide_eq_true rfl, Bool.and_self]

/-- Only the ready transactions are pending in the one ledger and not in the other. -/
theorem Sealed.isPending_eq (h : Sealed r s t) {signer : AccountId} {nonce : Nonce}
    (hnone : ¬∃ e ∈ s.ready, e.signer = signer ∧ e.nonce = nonce) :
    t.isPending signer nonce = s.isPending signer nonce := by
  unfold isPending
  rw [h.ready, h.future, List.nil_append, List.any_append, Eq.comm]
  refine Bool.or_eq_right_iff_imp.2 fun hany => absurd ?_ hnone
  obtain ⟨e, he, hboth⟩ := List.any_eq_true.1 hany
  rw [Bool.and_eq_true, decide_eq_true_eq, decide_eq_true_eq] at hboth
  exact ⟨e, he, hboth⟩

include separate in
/-- What is checked of a transaction does not depend on whether those before it have been executed,
but for the reason to refuse a nonce of one of these. -/
theorem Sealed.validate_eq (h : Sealed r s t) (hpool : Pooled r s taken)
    (few : taken < UInt32.size) (x : Extrinsic) :
    t.validate r x = s.validate r x ∨
      t.validate r x = .error .stale ∧ s.validate r x = .error .priorityTooLow := by
  have hnext := h.toNat_nonce separate hpool few x.signer
  have hexpected := h.expectedNonce_eq separate hpool few x.signer
  have hready := hpool.exists_ready_iff x.signer x.nonce
  unfold validate
  rw [h.isUnfunded_eq separate, hexpected]
  cases x.verify r.chain with
  | error e => exact .inl rfl
  | ok _ =>
    cases r.call? x.call with
    | none => exact .inl rfl
    | some call =>
      simp only
      by_cases hfunds : (r.requireFunded && s.isUnfunded r x.signer) = true
      · left
        rw [if_pos hfunds, if_pos hfunds]
      rw [if_neg hfunds, if_neg hfunds]
      by_cases hstale : x.nonce < r.nonce s.best x.signer
      · have hstale' : x.nonce < r.nonce t.best x.signer := by
          rw [UInt32.lt_iff_toNat_lt] at hstale ⊢
          unfold nextNonce at hnext
          omega
        left
        rw [if_pos hstale, if_pos hstale']
      rw [if_neg hstale]
      by_cases hused : x.nonce < r.nonce t.best x.signer
      · -- One of the ready transactions has the nonce.
        right
        rw [UInt32.lt_iff_toNat_lt] at hstale
        obtain ⟨e, he, hsigner, hnonce⟩ :=
          hready.2 ⟨Nat.not_lt.1 hstale, hnext ▸ UInt32.lt_iff_toNat_lt.1 hused⟩
        have hpending := isPending_of_ready he
        rw [hsigner, hnonce] at hpending
        rw [if_pos hused, if_pos hpending]
        exact ⟨rfl, rfl⟩
      · left
        have hnone : ¬∃ e ∈ s.ready, e.signer = x.signer ∧ e.nonce = x.nonce := by
          rw [hready, ← hnext, ← UInt32.lt_iff_toNat_lt]
          exact fun hboth => hused hboth.2
        rw [if_neg hused, h.isPending_eq hnone]

end Checking

/-! ## Operations -/

section Operations

variable (separate : r.keys.Separate)

theorem Sealed.trans (h : Sealed r s t) (hnext : Sealed r t u) : Sealed r s u := by
  obtain ⟨hbest, hready, hfuture, hlog, hclosed⟩ := hnext
  rw [h.ready] at hbest hlog
  refine ⟨?_, hready, ?_, ?_, ?_⟩
  · rw [hbest, ← h.best]
    rfl
  · rw [hfuture, h.future]
  · rw [hlog, h.log]
    exact List.append_nil _
  · rw [hclosed, h.closed]

/-- A block in the one that has nothing in blocks yet brings it nearer to the other. -/
theorem Sealed.of_withBlock (h : Sealed r s t) : Sealed r (s.withBlock r) t := by
  have hblock := sealed_withBlock r s
  refine ⟨?_, h.ready, ?_, ?_, ?_⟩
  · rw [hblock.ready, hblock.best]
    exact h.best
  · rw [hblock.future]
    exact h.future
  · rw [hblock.ready, hblock.log]
    exact h.log.trans (List.append_nil _).symm
  · rw [hblock.closed]
    exact h.closed

include separate in
/-- Funds come to the same whether given before or after the block. -/
theorem Sealed.fund (h : Sealed r s t) (account : AccountId) (free : Amount) (mode : SealMode) :
    Sealed r (s.fund r account free) (t.fund (r.withMode mode) account free) := by
  have hcredit := Rules.executeAll_credit separate account free s.best s.ready
  refine ⟨?_, h.ready, h.future, ?_, h.closed⟩
  · show r.credit account free t.best = (r.executeAll (r.credit account free s.best) s.ready).1
    rw [hcredit, h.best]
  · show t.log = s.log ++ (r.executeAll (r.credit account free s.best) s.ready).2.map _
    rw [hcredit]
    exact h.log

theorem accept_log (r : Rules) (x : Extrinsic) (watched : Bool) (call : Call)
    (placement : Placement) (s : State) : (s.accept r x watched call placement).log = s.log := by
  unfold log
  rw [accept_events]

include separate in
/-- An accepted transaction and those it promotes are put into a block now or later. -/
theorem Sealed.accept (h : Sealed r s t) (hpool : Pooled r s taken) (few : taken < UInt32.size)
    (mode : SealMode) (x : Extrinsic) (watched : Bool) (call : Call) (placement : Placement)
    (hu : Sealed r (t.accept (r.withMode mode) x watched call placement) u) :
    Sealed r (s.accept r x watched call placement) u := by
  have hexpected : expectedNonce (r.withMode mode) t.best t.ready x.signer =
      expectedNonce r s.best s.ready x.signer := h.expectedNonce_eq separate hpool few x.signer
  obtain ⟨hbest, hready, hfuture, hlog, hclosed⟩ := hu
  rw [accept_best, accept_ready, hexpected, h.ready, List.nil_append, h.future, h.best] at hbest
  rw [accept_future, hexpected, h.future] at hfuture
  rw [accept_best, accept_ready, hexpected, h.ready, List.nil_append, h.future, h.best] at hlog
  refine ⟨?_, hready, ?_, ?_, ?_⟩
  · rw [accept_best, accept_ready, Rules.executeAll_append]
    exact hbest
  · rw [accept_future]
    exact hfuture
  · rw [accept_best, accept_ready, Rules.executeAll_append, accept_log, hlog,
      accept_log, h.log]
    simp only [List.map_append, List.append_assoc]
  · rw [hclosed, accept_closed, accept_closed, h.closed]

end Operations

/-- The answers of two ledgers to one submission, the second of which seals later. -/
inductive SameAnswer : Except Node.Error TxHash → Except Node.Error TxHash → Prop where
  | same (answer : Except Node.Error TxHash) : SameAnswer answer answer
  | used : SameAnswer (.error (.rejected .stale)) (.error (.rejected .priorityTooLow))

theorem Sealed.submit (manual : r.sealMode = .manual) (separate : r.keys.Separate)
    (h : Sealed r s t) (hopen : s.closed = false) (hs : Steady r s taken)
    (ht : Steady (r.withMode .instant) t taken) (few : taken + 1 < UInt32.size) (x : Extrinsic)
    (watched : Bool) :
    SameAnswer (t.submit (r.withMode .instant) x watched).1 (s.submit r x watched).1 ∧
      Sealed r (s.submit r x watched).2 (t.submit (r.withMode .instant) x watched).2 := by
  have few' : taken < UInt32.size := Nat.lt_of_succ_lt few
  have hopen' : t.closed = false := h.closed.trans hopen
  have hmode := validate_withMode r .instant t x
  rcases h.validate_eq separate hs.pooled few' x with heq | ⟨hstale, hpriority⟩
  · rw [heq] at hmode
    cases hvalid : s.validate r x with
    | error reason =>
      rw [submit_of_error hopen hvalid, submit_of_error hopen' (hmode.trans hvalid)]
      exact ⟨.same _, h⟩
    | ok result =>
      obtain ⟨call, placement⟩ := result
      have hvalid' := hmode.trans hvalid
      have hnext := ht.accept (validate_eq_ok_iff.1 hvalid') watched
      rw [submit_of_ok hopen hvalid, submit_of_ok hopen' hvalid', sealIfInstant_of_manual manual]
      refine ⟨.same _, ?_⟩
      have separate' : (r.withMode .instant).keys.Separate := separate
      have hsealed := hnext.orderly.sealed_sealIfInstant separate'.disjoint rfl
      exact h.accept separate hs.pooled few' .instant x watched call placement hsealed.of_withMode
  · rw [hstale] at hmode
    rw [submit_of_error hopen hpriority, submit_of_error hopen' hmode]
    exact ⟨.used, h⟩

/-! ## Runs -/

/-- What an operation answers, if it is a submission. -/
def reply (r : Rules) (s : State) : Op → List (Except Node.Error TxHash)
  | .submit x watched => [(s.submit r x watched).1]
  | _ => []

/-- What the submissions of a run are answered, in their order. -/
def replies (r : Rules) (s : State) : List Op → List (Except Node.Error TxHash)
  | [] => []
  | op :: ops => s.reply r op ++ (s.step r op).replies r ops

end State

/-- The operations but for the requests to seal. -/
def Op.withoutBlocks (ops : List Op) : List Op := ops.filter (· ≠ .block)

theorem Op.withoutBlocks_cons_block (ops : List Op) :
    withoutBlocks (.block :: ops) = withoutBlocks ops := List.filter_cons_of_neg (by simp)

theorem Op.withoutBlocks_cons_of_ne {op : Op} (h : op ≠ .block) (ops : List Op) :
    withoutBlocks (op :: ops) = op :: withoutBlocks ops :=
  List.filter_cons_of_pos (decide_eq_true h)

theorem Op.submissions_withoutBlocks (ops : List Op) :
    submissions (withoutBlocks ops) = submissions ops := by
  unfold submissions withoutBlocks
  rw [List.countP_filter]
  refine List.countP_congr fun op _ => ?_
  cases op <;> simp [isSubmission]

namespace State

variable {r : Rules} {s t : State} {taken : Nat}

theorem Sealed.step (manual : r.sealMode = .manual) (separate : r.keys.Separate)
    (h : Sealed r s t) (hopen : s.closed = false) (hs : Steady r s taken)
    (ht : Steady (r.withMode .instant) t taken) (op : Op) (hblock : op ≠ .block)
    (hclose : op ≠ .close) (few : taken + Op.submissions [op] < UInt32.size) :
    List.Forall₂ SameAnswer (t.reply (r.withMode .instant) op) (s.reply r op) ∧
      Sealed r (s.step r op) (t.step (r.withMode .instant) op) := by
  cases op with
  | submit x watched =>
    obtain ⟨hanswer, hnext⟩ := h.submit manual separate hopen hs ht few x watched
    exact ⟨.cons hanswer .nil, hnext⟩
  | block => exact absurd rfl hblock
  | fund account free => exact ⟨.nil, h.fund separate account free .instant⟩
  | close => exact absurd rfl hclose

theorem Sealed.run (manual : r.sealMode = .manual) (separate : r.keys.Separate)
    (h : Sealed r s t) (hopen : s.closed = false) (hs : Steady r s taken)
    (ht : Steady (r.withMode .instant) t taken) (ops : List Op) (hclose : Op.close ∉ ops)
    (few : taken + Op.submissions ops < UInt32.size - 1) :
    List.Forall₂ SameAnswer (t.replies (r.withMode .instant) (Op.withoutBlocks ops))
        (s.replies r ops) ∧
      Sealed r (s.run r ops) (t.run (r.withMode .instant) (Op.withoutBlocks ops)) := by
  have separate' : (r.withMode .instant).keys.Separate := separate
  induction ops generalizing s t taken with
  | nil => exact ⟨.nil, h⟩
  | cons op ops ih =>
    obtain ⟨hop, hrest⟩ := not_or.1 (mt List.mem_cons.2 hclose)
    have hcount : Op.submissions (op :: ops) = Op.submissions [op] + Op.submissions ops :=
      Op.submissions_append [op] ops
    rw [hcount, ← Nat.add_assoc] at few
    have hopen' : (s.step r op).closed = false := (closed_step r s (Ne.symm hop)).trans hopen
    by_cases hblock : op = .block
    · subst hblock
      have hseal : s.step r .block = s.withBlock r := by
        show (s.requestSeal r).2 = s.withBlock r
        rw [requestSeal_of_open hopen, hs.orderly.sealBlock_eq separate.disjoint]
      rw [Op.withoutBlocks_cons_block]
      refine ih ?_ hopen' (hs.step separate .block (by omega)) (ht.mono (Nat.le_add_right _ _)) hrest few
      rw [hseal]
      exact h.of_withBlock
    · obtain ⟨hanswer, hnext⟩ :=
        h.step manual separate hopen hs ht op hblock (Ne.symm hop) (by omega)
      obtain ⟨hanswers, hlast⟩ := ih hnext hopen' (hs.step separate op (by omega))
        (ht.step separate' op (by omega)) hrest few
      rw [Op.withoutBlocks_cons_of_ne hblock]
      exact ⟨List.rel_append hanswer hanswers, hlast⟩

theorem Sealed.requestSeal (separate : r.keys.Separate) (h : Sealed r s t)
    (hopen : s.closed = false) (hs : Steady r s taken)
    (ht : Steady (r.withMode .instant) t taken) :
    (t.requestSeal (r.withMode .instant)).2.best = (s.requestSeal r).2.best ∧
      (t.requestSeal (r.withMode .instant)).2.log = (s.requestSeal r).2.log := by
  have separate' : (r.withMode .instant).keys.Separate := separate
  have hlast := (sealed_withBlock (r.withMode .instant) t).of_withMode
  rw [requestSeal_of_open hopen, requestSeal_of_open (h.closed.trans hopen),
    hs.orderly.sealBlock_eq separate.disjoint, ht.orderly.sealBlock_eq separate'.disjoint]
  obtain ⟨hbest, -, -, hlog, -⟩ := h.of_withBlock.trans hlast
  rw [withBlock_ready] at hbest hlog
  exact ⟨hbest, hlog.trans (List.append_nil _)⟩

end State

/-! ## Two ledgers side by side -/

namespace Config

/-- The rules of a ledger that seals in the given mode and is else as configured. -/
def rulesFor (c : Config) (mode : SealMode) : Rules := Rules.ofConfig { c with sealMode := mode }

def after (c : Config) (mode : SealMode) (ops : List Op) : State :=
  (State.initial (c.rulesFor mode)).run (c.rulesFor mode) ops

def sealedAfter (c : Config) (mode : SealMode) (ops : List Op) : State :=
  ((c.after mode ops).requestSeal (c.rulesFor mode)).2

end Config

namespace State

/-- Two ledgers come to the same with some operations, whose requests to seal only the second one is
given. -/
structure SealsAlike (c : Config) (ops : List Op) : Prop where
  /-- Only the reason to refuse a used nonce differs. -/
  answers : List.Forall₂ SameAnswer
    ((State.initial (c.rulesFor .instant)).replies (c.rulesFor .instant) (Op.withoutBlocks ops))
    ((State.initial (c.rulesFor .manual)).replies (c.rulesFor .manual) ops)
  /-- The same transactions wait for an earlier nonce at every point. -/
  future : ∀ before, before <+: ops →
    (c.after .instant (Op.withoutBlocks before)).future = (c.after .manual before).future
  best : (c.sealedAfter .instant (Op.withoutBlocks ops)).best = (c.sealedAfter .manual ops).best
  nonce : ∀ a, (c.rulesFor .instant).nonce (c.sealedAfter .instant (Op.withoutBlocks ops)).best a =
    (c.rulesFor .manual).nonce (c.sealedAfter .manual ops).best a
  /-- The same events of the same transactions, in the same order. -/
  log : (c.sealedAfter .instant (Op.withoutBlocks ops)).log = (c.sealedAfter .manual ops).log

/-- **It does not matter where blocks are sealed**, whatever transactions and funds the ledgers are
given. -/
theorem run_sealsAlike (c : Config) (separate : (StorageKeys.ofLayout c.layout).Separate)
    (ops : List Op) (hclose : Op.close ∉ ops) (few : Op.Few ops) : SealsAlike c ops := by
  have hstart : Sealed (c.rulesFor .manual) (State.initial (c.rulesFor .manual))
      (State.initial (c.rulesFor .instant)) := sealed_self rfl
  have hs := Steady.initial (c.rulesFor .manual)
  have ht := Steady.initial (c.rulesFor .instant)
  have hfew : ∀ before, before <+: ops → 0 + Op.submissions before < UInt32.size - 1 := by
    intro before hbefore
    rw [Nat.zero_add]
    exact few.of_prefix hbefore
  have hrun : ∀ before, before <+: ops →
      List.Forall₂ SameAnswer
        ((State.initial (c.rulesFor .instant)).replies (c.rulesFor .instant)
          (Op.withoutBlocks before))
        ((State.initial (c.rulesFor .manual)).replies (c.rulesFor .manual) before) ∧
      Sealed (c.rulesFor .manual) (c.after .manual before)
        (c.after .instant (Op.withoutBlocks before)) := by
    intro before hbefore
    have hclose' : Op.close ∉ before := fun hmem => hclose (hbefore.subset hmem)
    exact hstart.run rfl separate rfl hs ht before hclose' (hfew before hbefore)
  obtain ⟨hanswers, hsealed⟩ := hrun ops (List.prefix_refl ops)
  have hcount := hfew ops (List.prefix_refl ops)
  have hmanual : Steady (c.rulesFor .manual) (c.after .manual ops) (0 + Op.submissions ops) :=
    hs.run separate ops hcount
  have hinstant : Steady (c.rulesFor .instant) (c.after .instant (Op.withoutBlocks ops))
      (0 + Op.submissions ops) := by
    rw [← Op.submissions_withoutBlocks] at hcount ⊢
    exact ht.run separate _ hcount
  have hopen : (c.after .manual ops).closed = false := closed_run rfl hclose
  obtain ⟨hbest, hlog⟩ := hsealed.requestSeal separate hopen hmanual hinstant
  refine ⟨hanswers, fun before hbefore => (hrun before hbefore).2.future, hbest, ?_, hlog⟩
  intro a
  exact congrArg ((c.rulesFor .manual).nonce · a) hbest

theorem run_sealsAlike_outOfOrder :
    SealsAlike {} (Op.outOfOrder ++ .block :: Op.outOfOrder) :=
  run_sealsAlike {} (by decide +kernel) _ (by decide +kernel)
    (by decide +kernel)

end State

end MetaLedger.Ledger
