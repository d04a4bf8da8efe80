import MetaLedger.Proofs.Ledger.Admission
import MetaLedger.Proofs.Ledger.Effects
import MetaLedger.Proofs.Ledger.Quiet

/-!
# Replays

Executing a transaction moves the nonce of its account past it, the pool begins at that nonce, and what
is below it is refused. So a transaction that has been executed is never taken again
(`Chronicle.run_neverReplayed`). This does not depend on where the account nonces stand: the only nonce
that is not passed is the largest one.

The nonce is looked at last. Whoever hands in an executed transaction again is told that the ledger is
closed, or that the account has nothing to pay with, if this is so, and of the nonce only else
(`Refuses`).
-/

namespace MetaLedger

/-- The nonces that have a successor. -/
theorem Nonce.toNat_lt_last {n : Nonce} (h : n ≠ 0xFFFFFFFF) : n.toNat < UInt32.size - 1 := by
  have hlast : (0xFFFFFFFF : UInt32).toNat = UInt32.size - 1 := rfl
  have hne : n.toNat ≠ UInt32.size - 1 := fun heq => h (UInt32.toNat_inj.1 (heq.trans hlast.symm))
  have hlt := n.toNat_lt_size
  omega

namespace Ledger

namespace State

variable {r : Rules} {s t : State} {x : Extrinsic}

/-! ## Being refused -/

/-- What is done with a transaction whose nonce is used up. -/
structure Refuses (r : Rules) (s : State) (x : Extrinsic) : Prop where
  unchanged : ∀ watched, ∃ e, s.submit r x watched = (.error e, s)
  closed : s.closed = true → ∀ watched, (s.submit r x watched).1 = .error .closed
  payment : s.closed = false → r.Checks x → ¬r.CanPay s.best x.signer →
    ∀ watched, (s.submit r x watched).1 = .error (.rejected .payment)
  stale : s.closed = false → r.Checks x → r.CanPay s.best x.signer →
    ∀ watched, (s.submit r x watched).1 = .error (.rejected .stale)

theorem refuses_of_lt_nonce (h : x.nonce.toNat < (r.nonce s.best x.signer).toNat) :
    Refuses r s x where
  unchanged watched := by
    rcases submit_cases r x watched s with hrefused | ⟨_, _, -, hvalid, -⟩
    · exact hrefused
    · exact absurd (UInt32.lt_iff_toNat_lt.2 h) (validate_eq_ok_iff.1 hvalid).not_stale
  closed hclosed watched := by
    unfold submit
    rw [if_pos hclosed]
  payment hopen hchecks hpay := submit_payment hopen hchecks hpay
  stale hopen hchecks hpay :=
    submit_stale hopen hchecks hpay (UInt32.lt_iff_toNat_lt.2 h)

/-! ## Passing nonces -/

theorem countP_isAt_of_apart {entries : List PoolEntry} (h : entries.Pairwise Apart) {e : PoolEntry}
    (he : e ∈ entries) : entries.countP (isAt e.signer e.nonce) = 1 := by
  induction entries with
  | nil => cases he
  | cons f rest ih =>
    obtain ⟨hfirst, hrest⟩ := List.pairwise_cons.1 h
    rw [List.countP_cons]
    rcases List.mem_cons.1 he with rfl | he
    · have hnone : rest.countP (isAt e.signer e.nonce) = 0 :=
        List.countP_eq_zero.2 fun g hg hat => by
          obtain ⟨hsigner, hnonce⟩ := isAt_iff.1 hat
          exact hfirst g hg hsigner.symm hnonce.symm
      rw [hnone, if_pos (isAt_iff.2 ⟨rfl, rfl⟩)]
    · have hnot : ¬isAt e.signer e.nonce f = true := fun hat => by
        obtain ⟨hsigner, hnonce⟩ := isAt_iff.1 hat
        exact hfirst e he hsigner hnonce
      rw [ih hrest he, if_neg hnot]

/-- What holds of the executed transactions, but for those at the largest nonce: their accounts have
moved on, and no two of them share account and nonce. -/
structure Passed (r : Rules) (s : State) (executed : List PoolEntry) : Prop where
  used : ∀ e ∈ executed, e.nonce ≠ 0xFFFFFFFF → e.nonce.toNat < (r.nonce s.best e.signer).toNat
  apart : (executed.filter (·.nonce ≠ 0xFFFFFFFF)).Pairwise Apart

namespace Passed

variable {executed : List PoolEntry}

theorem countP_isAt (h : Passed r s executed) {e : PoolEntry} (he : e ∈ executed)
    (hnonce : e.nonce ≠ 0xFFFFFFFF) : executed.countP (isAt e.signer e.nonce) = 1 := by
  have hmem : e ∈ executed.filter (·.nonce ≠ 0xFFFFFFFF) :=
    List.mem_filter.2 ⟨he, decide_eq_true hnonce⟩
  rw [← countP_isAt_of_apart h.apart hmem, List.countP_filter]
  refine List.countP_congr fun f _ => ?_
  rw [Bool.and_eq_true, decide_eq_true_eq, iff_self_and]
  intro hat
  rw [(isAt_iff.1 hat).2]
  exact hnonce

theorem mono (h : Passed r s executed)
    (hnonce : ∀ a, (r.nonce s.best a).toNat ≤ (r.nonce t.best a).toNat) : Passed r t executed :=
  ⟨fun e he hlast => Nat.lt_of_lt_of_le (h.used e he hlast) (hnonce e.signer), h.apart⟩

theorem congr (h : Passed r s executed) (hbest : t.best = s.best) : Passed r t executed :=
  h.mono fun a => Nat.le_of_eq (by rw [hbest])

variable (disjoint : r.keys.Disjoint)

include disjoint in
/-- The ready transactions carry nonces that are not used, and a block uses them. -/
theorem sealBlock (h : Passed r s executed) (horder : Orderly r s) :
    Passed r (s.sealBlock r) (executed ++ s.ready) := by
  have hcount : ∀ a, (r.nonce (s.sealBlock r).best a).toNat =
      min (nextNonce r s a) (UInt32.size - 1) := fun a => by
    rw [sealBlock_best]
    exact Rules.toNat_nonce_executeAll_eq_min disjoint s.best s.ready a
  have hready : ∀ e ∈ s.ready, (r.nonce s.best e.signer).toNat ≤ e.nonce.toNat ∧
      e.nonce.toNat < nextNonce r s e.signer := fun e he =>
    (horder.lined.exists_ready_iff e.signer e.nonce).1 ⟨e, he, rfl, rfl⟩
  have hsealed : Passed r (s.sealBlock r) executed := h.mono fun a => by
    rw [sealBlock_best]
    exact Rules.nonce_le_executeAll disjoint s.best s.ready a
  constructor
  · intro e he hlast
    rcases List.mem_append.1 he with he | he
    · exact hsealed.used e he hlast
    · have hnext := (hready e he).2
      have hlt := Nonce.toNat_lt_last hlast
      rw [hcount]
      omega
  · rw [List.filter_append]
    refine List.pairwise_append.2 ⟨h.apart, ?_, ?_⟩
    · exact (List.pairwise_append.1 horder.apart).1.sublist List.filter_sublist
    · intro e he f hf hsigner hnonce
      obtain ⟨he, hlast⟩ := List.mem_filter.1 he
      have hused := h.used e he (of_decide_eq_true hlast)
      have hfree := (hready f (List.mem_filter.1 hf).1).1
      rw [hsigner, hnonce] at hused
      omega

include disjoint in
theorem effect (h : Passed r s executed) (horder : Orderly r s) {op : Op} {accepted : List Extrinsic}
    {more : List PoolEntry} (heffect : Effect r s op accepted more t) :
    Passed r t (executed ++ more) := by
  cases heffect with
  | nothing =>
    rw [List.append_nil]
    exact h
  | queued =>
    rw [List.append_nil]
    exact h.congr (accept_best ..)
  | included _ hvalid => exact (h.congr (accept_best ..)).sealBlock disjoint (horder.accept hvalid _)
  | sealed => exact h.sealBlock disjoint horder
  | funded account free =>
    rw [List.append_nil]
    exact h.mono fun a => Nat.le_of_eq (by rw [nonce_fund])
  | closed hopen =>
    rw [List.append_nil]
    refine h.congr ?_
    unfold State.close
    rw [if_neg (Bool.eq_false_iff.1 hopen)]

end Passed

/-! ## What is in the pool has been checked -/

/-- All transactions in the pool and in blocks have passed the checks. -/
def AllChecked (r : Rules) (s : State) (executed : List PoolEntry) : Prop :=
  ∀ e ∈ executed ++ (s.ready ++ s.future), r.Checks e.extrinsic

namespace AllChecked

variable {executed : List PoolEntry}

theorem accept (h : AllChecked r s executed) {call : Call} {placement : Placement}
    (hvalid : s.Valid r x call placement) (watched : Bool) :
    AllChecked r (s.accept r x watched call placement) executed := by
  intro e he
  rcases List.mem_append.1 he with he | he
  · exact h e (List.mem_append_left _ he)
  · rcases List.mem_append.1 ((accept_perm r x watched call placement s).mem_iff.1 he) with he | he
    · exact h e (List.mem_append_right _ he)
    · rw [List.mem_singleton.1 he]
      exact hvalid.checks

theorem sealBlock (h : AllChecked r s executed) :
    AllChecked r (s.sealBlock r) (executed ++ s.ready) := by
  intro e he
  rw [List.append_assoc] at he
  refine h e ?_
  rcases List.mem_append.1 he with he | he
  · exact List.mem_append_left _ he
  · refine List.mem_append_right _ ?_
    rcases List.mem_append.1 he with he | he
    · exact List.mem_append_left _ he
    · exact List.mem_append_right _ ((sealBlock_perm r s).mem_iff.1 he)

theorem effect (h : AllChecked r s executed) {op : Op} {accepted : List Extrinsic}
    {more : List PoolEntry} (heffect : Effect r s op accepted more t) :
    AllChecked r t (executed ++ more) := by
  cases heffect with
  | nothing =>
    rw [List.append_nil]
    exact h
  | queued _ hvalid =>
    rw [List.append_nil]
    exact h.accept hvalid _
  | included _ hvalid => exact (h.accept hvalid _).sealBlock
  | sealed => exact h.sealBlock
  | funded =>
    rw [List.append_nil]
    exact h
  | closed hopen =>
    intro e he
    unfold State.close at he
    rw [List.append_nil, if_neg (Bool.eq_false_iff.1 hopen)] at he
    simp only [List.append_nil] at he
    exact h e (List.mem_append_left _ he)

end AllChecked

/-! ## Quiet times -/

/-- In quiet times a transaction at its account's nonce is executed at once, and counted. -/
theorem Quiet.executes_submit (h : Quiet s) (instant : r.sealMode = .instant)
    (disjoint : r.keys.Disjoint) {call : Call} (hvalid : s.Valid r x call .ready) :
    s.executes r (.submit x false) = [⟨x.hash, x, call⟩] ∧
      Quiet (s.step r (.submit x false)) ∧
      r.nonce (s.step r (.submit x false)).best x.signer = (r.nonce s.best x.signer).next := by
  obtain ⟨t, hsubmit, hquiet, hbest, -⟩ := h.submit instant hvalid false
  have hstep : s.step r (.submit x false) = t := congrArg Prod.snd hsubmit
  have hchecked := validate_eq_ok_iff.2 hvalid
  refine ⟨?_, hstep ▸ hquiet, ?_⟩
  · unfold executes
    simp only [submit_of_ok h.isOpen hchecked, hchecked, instant, if_true]
    exact (h.accept_queues x call false).1
  · rw [hstep, hbest, Rules.nonce_execute disjoint]
    exact if_pos rfl

/-- The largest nonce is counted and stays the same. -/
theorem Quiet.valid_again (h : Quiet s) (instant : r.sealMode = .instant)
    (disjoint : r.keys.Disjoint) (hfree : r.requireFunded = false) {call : Call}
    (hvalid : s.Valid r x call .ready) (hnonce : x.nonce = r.nonce s.best x.signer)
    (hlast : x.nonce = 0xFFFFFFFF) : (s.step r (.submit x false)).Valid r x call .ready := by
  obtain ⟨-, hquiet, hcount⟩ := h.executes_submit instant disjoint hvalid
  obtain ⟨u, hverify⟩ := hvalid.verified
  refine hquiet.valid hfree hverify hvalid.call_eq ?_
  rw [hcount, ← hnonce, hlast]
  rfl

theorem not_canPay_fund (hfunded : r.requireFunded = true) (s : State) (a : AccountId) :
    ¬r.CanPay (s.fund r a 0).best a := by
  intro hpay
  obtain ⟨info, hinfo, hfree⟩ := hpay hfunded
  have hspent : r.accountInfo? (s.fund r a 0).best a =
      some { (r.accountInfo? s.best a).getD .fresh with free := 0 } := by
    show r.accountInfo? (s.best.insert (r.keys.accountAddress a) (AccountInfo.encode _)) a = _
    rw [Rules.accountInfo?_insert, if_pos rfl]
  rw [hspent] at hinfo
  cases hinfo
  exact hfree rfl

/-- A ledger with nothing in it but an account with a nonce. -/
def startingAt (r : Rules) (a : AccountId) (n : Nonce) : State :=
  { State.initial r with
    best := Entries.empty.insert (r.keys.accountAddress a) { AccountInfo.fresh with nonce := n }.encode }

theorem quiet_startingAt (r : Rules) (a : AccountId) (n : Nonce) : Quiet (startingAt r a n) :=
  ⟨rfl, rfl, rfl, rfl, fun _ h => nomatch h⟩

theorem orderly_startingAt (r : Rules) (a : AccountId) (n : Nonce) : Orderly r (startingAt r a n) :=
  ⟨.nil, fun _ => rfl, fun _ he => nomatch he⟩

theorem nonce_startingAt (r : Rules) (a : AccountId) (n : Nonce) :
    r.nonce (startingAt r a n).best a = n := by
  show r.nonce (Entries.empty.insert _ (AccountInfo.encode _)) a = n
  rw [Rules.nonce_eq_getD, Rules.accountInfo?_insert, if_pos rfl]
  rfl

end State

/-! ## Every run -/

namespace Chronicle

variable {r : Rules} (disjoint : r.keys.Disjoint)

theorem executed_prefix_run (r : Rules) (h : Chronicle) (ops : List Op) :
    h.executed <+: (h.run r ops).executed := by
  induction ops generalizing h with
  | nil => exact List.prefix_refl _
  | cons op ops ih => exact (List.prefix_append _ _).trans (ih (h.step r op))

include disjoint in
theorem passed_run {h : Chronicle} (horder : State.Orderly r h.state)
    (hpassed : State.Passed r h.state h.executed) (ops : List Op) :
    State.Passed r (h.run r ops).state (h.run r ops).executed := by
  induction ops generalizing h with
  | nil => exact hpassed
  | cons op ops ih =>
    have hnext : State.Orderly r (h.step r op).state := horder.step disjoint op
    exact ih hnext (hpassed.effect disjoint horder (State.effect_step r h.state op))

theorem allChecked_run {h : Chronicle} (hchecked : State.AllChecked r h.state h.executed)
    (ops : List Op) : State.AllChecked r (h.run r ops).state (h.run r ops).executed := by
  induction ops generalizing h with
  | nil => exact hchecked
  | cons op ops ih =>
    have hnext : State.AllChecked r (h.step r op).state (h.step r op).executed :=
      hchecked.effect (State.effect_step r h.state op)
    exact ih hnext

include disjoint in
theorem mem_executed {s : State} (h : s.Quiet) (instant : r.sealMode = .instant) {x : Extrinsic}
    {call : Call} (hvalid : s.Valid r x call .ready) :
    ⟨x.hash, x, call⟩ ∈ (Chronicle.run r { state := s } [.submit x false]).executed := by
  obtain ⟨hfirst, -, -⟩ := h.executes_submit instant disjoint hvalid
  show _ ∈ [] ++ s.executes r (.submit x false)
  rw [hfirst]
  exact List.mem_singleton_self _

/-- **No transaction is taken again that has been executed**, from any state whose pool is in order,
wherever the account nonces stand in it. Its nonce must not be the largest one, which is never used
up. -/
theorem run_neverReplayed (c : Config) (disjoint : (StorageKeys.ofLayout c.layout).Disjoint)
    {s : State} (horder : State.Orderly (Rules.ofConfig c) s) (before later : List Op) :
    let r := Rules.ofConfig c
    let h := Chronicle.run r { state := s } before
    let k := h.run r later
    ∀ e ∈ h.executed, e.nonce ≠ 0xFFFFFFFF →
      State.Refuses r k.state e.extrinsic ∧
      k.executed.countP (State.isAt e.signer e.nonce) = 1 ∧
      ((∀ f ∈ s.ready ++ s.future, r.Checks f.extrinsic) → r.Checks e.extrinsic) := by
  intro r h k e he hnonce
  have hk : k = Chronicle.run r { state := s } (before ++ later) := List.foldl_append.symm
  have hmem : e ∈ k.executed := (executed_prefix_run r h later).subset he
  have hpassed : State.Passed r k.state k.executed := by
    rw [hk]
    exact passed_run disjoint (h := { state := s }) horder ⟨nofun, .nil⟩ _
  refine ⟨State.refuses_of_lt_nonce (hpassed.used e hmem hnonce), hpassed.countP_isAt hmem hnonce, ?_⟩
  intro hpool
  have hchecked : State.AllChecked r k.state k.executed := by
    rw [hk]
    exact allChecked_run (h := { state := s }) hpool _
  exact hchecked e (List.mem_append_left _ hmem)

open Ed25519 (neutralKey) in
/-- The last transaction but one that an account can send. -/
theorem run_neverReplayed_nearLast :
    let call := Call.set [7] [1] [2]
    let x := Extrinsic.neutral neutralKey 0xFFFFFFFE (call.encodeAt ⟨8, 0⟩)
    let r := Rules.ofConfig {}
    let h := Chronicle.run r { state := .startingAt r ⟨neutralKey⟩ 0xFFFFFFFE } [.submit x false]
    let k := h.run r [.submit x true, .block]
    State.Refuses r k.state x ∧ r.Checks x ∧
      k.executed.countP (State.isAt ⟨neutralKey⟩ 0xFFFFFFFE) = 1 := by
  intro call x r h k
  have disjoint : r.keys.Disjoint := StorageKeys.Separate.disjoint (by decide +kernel)
  have hcall : r.call? (call.encodeAt ⟨8, 0⟩) = some call := by decide +kernel
  have hverify := Extrinsic.verify_neutral Ed25519.neutralKey_namesNeutral 0xFFFFFFFE x.call r.chain
  have hquiet := State.quiet_startingAt r ⟨neutralKey⟩ 0xFFFFFFFE
  have hnonce := (State.nonce_startingAt r ⟨neutralKey⟩ 0xFFFFFFFE).symm
  have hmem := mem_executed disjoint hquiet rfl (hquiet.valid rfl hverify hcall hnonce)
  have hlast : (0xFFFFFFFE : Nonce) ≠ 0xFFFFFFFF := by decide
  obtain ⟨hrefuses, honce, hchecks⟩ := run_neverReplayed {} disjoint
    (State.orderly_startingAt r ⟨neutralKey⟩ 0xFFFFFFFE) [.submit x false] [.submit x true, .block]
    _ hmem hlast
  exact ⟨hrefuses, hchecks nofun, honce⟩

/-! ## Where a replay is told something else, or is taken -/

/-- Whatever has been executed is `Stale` ever after, and is not executed again. -/
def RefusesReplays (r : Rules) (s : State) : Prop :=
  ∀ before later : List Op,
    let h := Chronicle.run r { state := s } before
    let k := h.run r later
    ∀ e ∈ h.executed,
      (∀ watched, (k.state.submit r e.extrinsic watched).1 = .error (.rejected .stale)) ∧
      k.executed.countP (·.extrinsic = e.extrinsic) = 1

section Quiet

variable {r : Rules} {s : State} {x : Extrinsic} {call : Call}

/-- In quiet times, a transaction at the largest nonce is executed as often as it is handed in. -/
theorem executed_twice (h : s.Quiet) (instant : r.sealMode = .instant) (disjoint : r.keys.Disjoint)
    (hfree : r.requireFunded = false) (hvalid : s.Valid r x call .ready)
    (hnonce : x.nonce = r.nonce s.best x.signer) (hlast : x.nonce = 0xFFFFFFFF) :
    (Chronicle.run r { state := s } [.submit x false, .submit x false]).executed =
      [⟨x.hash, x, call⟩, ⟨x.hash, x, call⟩] := by
  obtain ⟨hfirst, hnext, -⟩ := h.executes_submit instant disjoint hvalid
  obtain ⟨hagain, -, -⟩ := hnext.executes_submit instant disjoint
    (h.valid_again instant disjoint hfree hvalid hnonce hlast)
  exact congrArg₂ (· ++ ·) hfirst hagain

theorem not_refusesReplays_of_last (h : s.Quiet) (instant : r.sealMode = .instant)
    (disjoint : r.keys.Disjoint) (hfree : r.requireFunded = false) (hvalid : s.Valid r x call .ready)
    (hnonce : x.nonce = r.nonce s.best x.signer) (hlast : x.nonce = 0xFFFFFFFF) :
    ¬RefusesReplays r s := fun hrefuses => by
  have honce := (hrefuses [.submit x false] [.submit x false] _
    (mem_executed disjoint h instant hvalid)).2
  have htwice := executed_twice h instant disjoint hfree hvalid hnonce hlast
  have hrun : (Chronicle.run r { state := s } [.submit x false, .submit x false]) =
      ((Chronicle.run r { state := s } [.submit x false]).run r [.submit x false]) := rfl
  rw [← hrun, htwice] at honce
  simp at honce

/-- An account that has nothing left is told so. -/
theorem not_refusesReplays_of_spent {free : Amount} (h : (s.fund r x.signer free).Quiet)
    (instant : r.sealMode = .instant) (disjoint : r.keys.Disjoint) (hfunded : r.requireFunded = true)
    (hvalid : (s.fund r x.signer free).Valid r x call .ready) : ¬RefusesReplays r s :=
  fun hrefuses => by
  have hmem := mem_executed disjoint h instant hvalid
  obtain ⟨-, hnext, -⟩ := h.executes_submit instant disjoint hvalid
  have hstale := (hrefuses [.fund x.signer free, .submit x false] [.fund x.signer 0] _ hmem).1 false
  have hpayment := State.submit_payment (s := State.fund r x.signer 0 _) hnext.isOpen hvalid.checks
    (State.not_canPay_fund hfunded _ x.signer) false
  cases hstale.symm.trans hpayment

/-- A ledger that has been closed says so. -/
theorem not_refusesReplays_of_closed (h : s.Quiet) (instant : r.sealMode = .instant)
    (disjoint : r.keys.Disjoint) (hvalid : s.Valid r x call .ready) : ¬RefusesReplays r s :=
  fun hrefuses => by
  have hmem := mem_executed disjoint h instant hvalid
  have hstale := (hrefuses [.submit x false] [.close] _ hmem).1 false
  have hclosed : ∀ t : State, (t.close.submit r x false).1 = .error .closed := fun t => by
    unfold State.submit
    rw [if_pos (State.closed_close t)]
  cases hstale.symm.trans (hclosed _)

end Quiet

open Ed25519 (neutralKey) in
theorem replays_not_always_stale :
    let call := Call.set [7] [1] [2]
    let x := fun nonce => Extrinsic.neutral neutralKey nonce (call.encodeAt ⟨8, 0⟩)
    let r := Rules.ofConfig {}
    let s := State.startingAt r ⟨neutralKey⟩ 0xFFFFFFFF
    let e : PoolEntry := ⟨(x 0xFFFFFFFF).hash, x 0xFFFFFFFF, call⟩
    let q := Rules.ofConfig { requireFunded := true }
    (State.Orderly r s ∧ ¬RefusesReplays r s ∧
      (Chronicle.run r { state := s } [.submit e.extrinsic false, .submit e.extrinsic false]).executed =
        [e, e]) ∧
    (State.Orderly q (State.initial q) ∧ ¬RefusesReplays q (State.initial q)) ∧
    (State.Orderly r (State.initial r) ∧ ¬RefusesReplays r (State.initial r)) := by
  intro call x r s e q
  have disjoint : r.keys.Disjoint := StorageKeys.Separate.disjoint (by decide +kernel)
  have hcall : r.call? (call.encodeAt ⟨8, 0⟩) = some call := by decide +kernel
  have hverify : ∀ nonce (chain : ChainBinding), (x nonce).verify chain = .ok () := fun nonce =>
    Extrinsic.verify_neutral Ed25519.neutralKey_namesNeutral nonce _
  refine ⟨⟨State.orderly_startingAt r _ _, ?_⟩, ⟨.initial q, ?_⟩, ⟨.initial r, ?_⟩⟩
  · have hquiet := State.quiet_startingAt r ⟨neutralKey⟩ 0xFFFFFFFF
    have hnonce := (State.nonce_startingAt r ⟨neutralKey⟩ 0xFFFFFFFF).symm
    have hvalid := hquiet.valid rfl (hverify 0xFFFFFFFF r.chain) hcall hnonce
    exact ⟨not_refusesReplays_of_last hquiet rfl disjoint rfl hvalid hnonce rfl,
      executed_twice hquiet rfl disjoint rfl hvalid hnonce rfl⟩
  · have hquiet : ((State.initial q).fund q ⟨neutralKey⟩ 9).Quiet :=
      ⟨rfl, rfl, rfl, rfl, fun _ h => nomatch h⟩
    have hvalid : ((State.initial q).fund q ⟨neutralKey⟩ 9).Valid q (x 0) call .ready :=
      hquiet.valid_of_funded (by decide +kernel) (hverify 0 q.chain) hcall (by decide +kernel)
    exact not_refusesReplays_of_spent (x := x 0) hquiet rfl disjoint rfl hvalid
  · have hquiet := State.quiet_initial r
    have hvalid := hquiet.valid rfl (hverify 0 r.chain) hcall rfl
    exact not_refusesReplays_of_closed hquiet rfl disjoint hvalid

end Chronicle

end Ledger

end MetaLedger
