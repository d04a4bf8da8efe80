import MetaLedger.Proofs.Ed25519.Neutral
import MetaLedger.Proofs.Ledger.Block

/-!
# Runs of a ledger

A ledger serves one operation at a time, so whatever any number of clients do with it is a list of
operations, and the states it can be in are those that such lists lead to from the genesis block.
Reading changes nothing and is left out. What a step can do is said once, for each operation, by an
equation or a case lemma (`submit_cases`, `validate_eq_ok_iff`); invariants are proved from these.
-/

namespace MetaLedger.Ledger

/-- What changes a ledger. -/
inductive Op where
  /-- A transaction is handed in, by someone who waits for its receipt if `watched`. -/
  | submit (x : Extrinsic) (watched : Bool)
  /-- The ready transactions are to be put into a block. -/
  | block
  | fund (account : AccountId) (free : Amount)
  | close
deriving DecidableEq

namespace Op

def isSubmission : Op → Bool
  | submit .. => true
  | _ => false

/-- How many transactions a list of operations hands in, whatever becomes of them. -/
def submissions (ops : List Op) : Nat := ops.countP isSubmission

/-- The nonces of 32 bits suffice for all transactions that are handed in, with one to spare: the
largest nonce is its own successor. -/
def Few (ops : List Op) : Prop := submissions ops < UInt32.size - 1

instance (ops : List Op) : Decidable (Few ops) :=
  inferInstanceAs (Decidable (submissions ops < UInt32.size - 1))

theorem submissions_append (first second : List Op) :
    submissions (first ++ second) = submissions first + submissions second := List.countP_append

theorem Few.of_prefix {before ops : List Op} (h : Few ops) (hbefore : before <+: ops) :
    Few before := Nat.lt_of_le_of_lt hbefore.sublist.countP_le h

end Op

namespace State

def step (r : Rules) (s : State) : Op → State
  | .submit x watched => (s.submit r x watched).2
  | .block => (s.requestSeal r).2
  | .fund account free => s.fund r account free
  | .close => s.close

def run (r : Rules) (s : State) (ops : List Op) : State := ops.foldl (step r) s

/-! ## What a submission does -/

/-- The transaction is in the pool, and nothing has been sealed yet. -/
def accept (r : Rules) (x : Extrinsic) (watched : Bool) (call : Call) (placement : Placement)
    (s : State) : State :=
  (if watched then s.watch x.hash else s).enqueue r ⟨x.hash, x, call⟩ placement

theorem submit_of_error {r : Rules} {x : Extrinsic} {s : State} {reason : Node.Rejection}
    (hopen : s.closed = false) (h : s.validate r x = .error reason) (watched : Bool) :
    s.submit r x watched = (.error (.rejected reason), s) := by
  unfold submit
  rw [hopen, h]
  rfl

theorem submit_of_ok {r : Rules} {x : Extrinsic} {s : State} {call : Call} {placement : Placement}
    (hopen : s.closed = false) (h : s.validate r x = .ok (call, placement)) (watched : Bool) :
    s.submit r x watched =
      (.ok x.hash, (s.accept r x watched call placement).sealIfInstant r) := by
  unfold submit
  rw [hopen, h]
  rfl

/-- A submission is refused and changes nothing, or it is accepted as checked. -/
theorem submit_cases (r : Rules) (x : Extrinsic) (watched : Bool) (s : State) :
    (∃ e, s.submit r x watched = (.error e, s)) ∨
    ∃ call placement, s.closed = false ∧ s.validate r x = .ok (call, placement) ∧
      s.submit r x watched =
        (.ok x.hash, (s.accept r x watched call placement).sealIfInstant r) := by
  cases hclosed : s.closed with
  | true =>
    refine .inl ⟨.closed, ?_⟩
    unfold submit
    rw [if_pos hclosed]
  | false =>
    cases hvalid : s.validate r x with
    | error reason => exact .inl ⟨.rejected reason, submit_of_error hclosed hvalid watched⟩
    | ok result => exact .inr ⟨result.1, result.2, rfl, rfl, submit_of_ok hclosed hvalid watched⟩

theorem submit_refused {r : Rules} {x : Extrinsic} {watched : Bool} {s : State} {e : Node.Error}
    (h : (s.submit r x watched).1 = .error e) : (s.submit r x watched).2 = s := by
  rcases submit_cases r x watched s with ⟨_, heq⟩ | ⟨_, _, -, -, heq⟩
  · rw [heq]
  · rw [heq] at h
    cases h

/-- What is checked of a transaction that is accepted. -/
structure Valid (r : Rules) (s : State) (x : Extrinsic) (call : Call) (placement : Placement) :
    Prop where
  verified : ∃ u, x.verify r.chain = .ok u
  call_eq : r.call? x.call = some call
  funded : (r.requireFunded && s.isUnfunded r x.signer) = false
  not_stale : ¬x.nonce < r.nonce s.best x.signer
  not_pending : s.isPending x.signer x.nonce = false
  place_eq : place (expectedNonce r s.best s.ready x.signer) x.nonce = .ok placement

theorem validate_eq_ok_iff {r : Rules} {s : State} {x : Extrinsic} {call : Call}
    {placement : Placement} :
    s.validate r x = .ok (call, placement) ↔ s.Valid r x call placement := by
  constructor
  · intro h
    unfold validate at h
    cases hverify : x.verify r.chain with
    | error e => rw [hverify] at h; cases h
    | ok u =>
      cases hcall : r.call? x.call with
      | none => rw [hverify, hcall] at h; cases h
      | some found =>
        simp only [hverify, hcall] at h
        split at h
        · cases h
        · next hfunded =>
          split at h
          · cases h
          · next hstale =>
            split at h
            · cases h
            · next hpending =>
              cases hplace : place (expectedNonce r s.best s.ready x.signer) x.nonce with
              | error reason => rw [hplace] at h; cases h
              | ok found =>
                rw [hplace] at h
                cases h
                exact ⟨⟨u, hverify⟩, hcall, by simpa using hfunded, hstale, by simpa using hpending,
                  hplace⟩
  · rintro ⟨⟨u, hverify⟩, hcall, hfunded, hstale, hpending, hplace⟩
    unfold validate
    simp only [hverify, hcall, hfunded, hstale, hpending, hplace, if_false, Bool.false_eq_true]

/-- A nonce that is placed is the expected one, or another one that is not far ahead. -/
theorem place_cases {expected nonce : Nonce} {placement : Placement}
    (h : place expected nonce = .ok placement) :
    placement = .ready ∧ nonce = expected ∨
    placement = .future ∧ nonce ≠ expected ∧ nonce.toNat - expected.toNat ≤ maxFutureGap := by
  unfold place at h
  by_cases heq : nonce = expected
  · rw [if_pos heq] at h
    cases h
    exact .inl ⟨rfl, heq⟩
  · rw [if_neg heq] at h
    by_cases hgap : maxFutureGap < nonce.toNat - expected.toNat
    · rw [if_pos hgap] at h
      cases h
    · rw [if_neg hgap] at h
      cases h
      exact .inr ⟨rfl, heq, Nat.not_lt.1 hgap⟩

theorem isPending_eq_false_iff {s : State} {signer : AccountId} {nonce : Nonce} :
    s.isPending signer nonce = false ↔
      ∀ e ∈ s.ready ++ s.future, e.signer = signer → e.nonce ≠ nonce := by
  unfold isPending
  rw [List.any_eq_false]
  refine forall_congr' fun e => forall_congr' fun _ => ?_
  rw [Bool.and_eq_true, decide_eq_true_eq, decide_eq_true_eq, not_and]

/-- An admitted transaction is queued as if nobody waited for it, as far as pool and entries go. -/
theorem accept_eq_enqueue (r : Rules) (x : Extrinsic) (watched : Bool) (call : Call)
    (placement : Placement) (s : State) :
    ∃ t : State, t.best = s.best ∧ t.ready = s.ready ∧ t.future = s.future ∧
      t.events = s.events ∧ t.closed = s.closed ∧ t.number = s.number ∧
      s.accept r x watched call placement = t.enqueue r ⟨x.hash, x, call⟩ placement := by
  cases watched with
  | false => exact ⟨s, rfl, rfl, rfl, rfl, rfl, rfl, rfl⟩
  | true => exact ⟨s.watch x.hash, by simp, by simp, by simp, by simp, by simp, by simp, rfl⟩

section Accept

variable (r : Rules) (x : Extrinsic) (watched : Bool) (call : Call) (placement : Placement) (s : State)

@[simp] theorem accept_best : (s.accept r x watched call placement).best = s.best := by
  unfold accept enqueue
  cases watched <;> cases placement <;> simp

@[simp] theorem accept_head : (s.accept r x watched call placement).head = s.head := by
  unfold accept enqueue
  cases watched <;> cases placement <;> simp [promote_eq]

@[simp] theorem accept_past : (s.accept r x watched call placement).past = s.past := by
  unfold accept enqueue
  cases watched <;> cases placement <;> simp [promote_eq]

@[simp] theorem accept_events : (s.accept r x watched call placement).events = s.events := by
  unfold accept enqueue
  cases watched <;> cases placement <;> simp

@[simp] theorem accept_number : (s.accept r x watched call placement).number = s.number := by
  unfold accept enqueue
  cases watched <;> cases placement <;> simp [promote_eq]

@[simp] theorem accept_closed : (s.accept r x watched call placement).closed = s.closed := by
  unfold accept enqueue
  cases watched <;> cases placement <;> simp

theorem accept_ready : (s.accept r x watched call placement).ready =
    s.ready ++ (arrival (expectedNonce r s.best s.ready x.signer) s.future ⟨x.hash, x, call⟩
      placement).1 := by
  unfold accept
  cases watched <;> simp [enqueue_eq, PoolEntry.signer]

theorem accept_future : (s.accept r x watched call placement).future =
    (arrival (expectedNonce r s.best s.ready x.signer) s.future ⟨x.hash, x, call⟩ placement).2 := by
  unfold accept
  cases watched <;> simp [enqueue_eq, PoolEntry.signer]

/-- The pool has an accepted transaction in addition. -/
theorem accept_perm :
    ((s.accept r x watched call placement).ready ++
      (s.accept r x watched call placement).future).Perm
      (s.ready ++ s.future ++ [⟨x.hash, x, call⟩]) := by
  rw [accept_ready, accept_future, List.append_assoc, List.append_assoc]
  exact (arrival_perm _ s.future ⟨x.hash, x, call⟩ placement).append_left s.ready

end Accept

/-! ## The other operations -/

theorem requestSeal_of_open {r : Rules} {s : State} (h : s.closed = false) :
    (s.requestSeal r).2 = s.sealBlock r := by
  unfold requestSeal
  rw [h]
  rfl

theorem requestSeal_of_closed {r : Rules} {s : State} (h : s.closed = true) :
    (s.requestSeal r).2 = s := by
  unfold requestSeal
  rw [if_pos h]

theorem sealIfInstant_of_manual {r : Rules} {s : State} (h : r.sealMode = .manual) :
    s.sealIfInstant r = s := by
  unfold sealIfInstant
  rw [h]
  rfl

theorem sealIfInstant_of_empty {r : Rules} {s : State} (h : s.ready = []) :
    s.sealIfInstant r = s := by
  unfold sealIfInstant
  rw [h, List.isEmpty_nil, Bool.not_true, Bool.and_false]
  exact if_neg Bool.false_ne_true

theorem sealIfInstant_of_ready {r : Rules} {s : State} (instant : r.sealMode = .instant)
    (h : s.ready ≠ []) : s.sealIfInstant r = s.sealBlock r := by
  have hready : s.ready.isEmpty = false := List.isEmpty_eq_false_iff.2 h
  unfold sealIfInstant
  rw [instant, hready]
  rfl

theorem nonce_fund (r : Rules) (s : State) (account : AccountId) (free : Amount) (a : AccountId) :
    r.nonce (s.fund r account free).best a = r.nonce s.best a := by
  show r.nonce (s.best.insert (r.keys.accountAddress account) (AccountInfo.encode _)) a = _
  rw [Rules.nonce_eq_getD, Rules.accountInfo?_insert, Rules.nonce_eq_getD r s.best]
  split
  · next same => rw [same]; rfl
  · rfl

/-- What every acceptance, block, funding and closing keeps is kept by every operation: operations are
made of these. -/
theorem preserved_step {r : Rules} {P : State → Prop}
    (haccept : ∀ s x watched call placement, s.closed = false → s.Valid r x call placement → P s →
      P (s.accept r x watched call placement))
    (hseal : ∀ s, s.closed = false → P s → P (s.sealBlock r))
    (hfund : ∀ s account free, P s → P (s.fund r account free))
    (hclose : ∀ s, P s → P s.close) {s : State} (h : P s) (op : Op) : P (s.step r op) := by
  cases op with
  | submit x watched =>
    show P (s.submit r x watched).2
    rcases submit_cases r x watched s with ⟨e, heq⟩ | ⟨call, placement, hopen, hvalid, heq⟩
    · rw [heq]
      exact h
    · rw [heq]
      have hnext := haccept s x watched call placement hopen (validate_eq_ok_iff.1 hvalid) h
      unfold sealIfInstant
      split
      · exact hseal _ (by rw [accept_closed, hopen]) hnext
      · exact hnext
  | block =>
    show P (s.requestSeal r).2
    cases hclosed : s.closed with
    | true =>
      rw [requestSeal_of_closed hclosed]
      exact h
    | false =>
      rw [requestSeal_of_open hclosed]
      exact hseal s hclosed h
  | fund account free => exact hfund s account free h
  | close => exact hclose s h

theorem preserved_run {r : Rules} {P : State → Prop} (hstep : ∀ s op, P s → P (s.step r op))
    {s : State} (h : P s) (ops : List Op) : P (s.run r ops) := by
  induction ops generalizing s with
  | nil => exact h
  | cons op ops ih => exact ih (hstep s op h)

theorem run_append (r : Rules) (s : State) (before later : List Op) :
    s.run r (before ++ later) = (s.run r before).run r later := List.foldl_append

/-- Only closing closes a ledger. -/
theorem closed_step (r : Rules) (s : State) {op : Op} (h : op ≠ .close) :
    (s.step r op).closed = s.closed := by
  cases op with
  | submit x watched =>
    show (s.submit r x watched).2.closed = s.closed
    rcases submit_cases r x watched s with ⟨e, heq⟩ | ⟨call, placement, -, -, heq⟩
    · rw [heq]
    · rw [heq]
      unfold sealIfInstant
      split
      · rw [sealBlock_closed, accept_closed]
      · exact accept_closed r x watched call placement s
  | block =>
    show (s.requestSeal r).2.closed = s.closed
    cases hclosed : s.closed with
    | true => rw [requestSeal_of_closed hclosed, hclosed]
    | false => rw [requestSeal_of_open hclosed, sealBlock_closed, hclosed]
  | fund account free => rfl
  | close => exact absurd rfl h

theorem closed_run {r : Rules} {s : State} {ops : List Op} (hopen : s.closed = false)
    (h : Op.close ∉ ops) : (s.run r ops).closed = false := by
  induction ops generalizing s with
  | nil => exact hopen
  | cons op ops ih =>
    obtain ⟨hop, hrest⟩ := not_or.1 (mt List.mem_cons.2 h)
    exact ih ((closed_step r s (Ne.symm hop)).trans hopen) hrest

end State

/-! ## A run to look at -/

/-- A call for the module's usual place, signed for one of the two accounts whose keys name the
neutral point. -/
def Op.submitNeutral (key : Fixed 32) (nonce : Nonce) (call : Call) : Op :=
  let indices : ModuleIndices := {}
  .submit (.neutral key nonce (call.encodeAt (indices.callIndex call.kind))) false

open Ed25519 (neutralKey signedNeutralKey) in
/-- Two accounts at one record: the first one's transactions come in the wrong order, the second
one's are refused, one when it is executed and one at once. -/
def Op.outOfOrder : List Op :=
  [submitNeutral neutralKey 1 (.update [7] [1] [3]), submitNeutral neutralKey 0 (.set [7] [1] [2]),
    fund ⟨signedNeutralKey⟩ 9, submitNeutral signedNeutralKey 0 (.delete [7] [1]),
    submitNeutral signedNeutralKey 100 (.set [7] [2] [])]

end MetaLedger.Ledger
