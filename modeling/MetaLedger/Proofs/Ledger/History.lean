import MetaLedger.Proofs.Ledger.PoolInvariant

/-!
# Where accepted transactions are

A chronicle is kept beside a run: which transactions were accepted, by the replies, and which ones were
put into blocks, in the order of their execution. At every point the accepted transactions are the
executed ones, the ready ones and the ones behind a gap, each in one place (`run_accounted`). Entries
move between the two queues and out of them by permutations (`accept_perm`), and the nonces say that
no two of them are one transaction: the executed ones of an account carry the nonces below its own,
and the pool begins there.
-/

namespace MetaLedger.Ledger

namespace State

/-- The transaction that an operation hands in, if it is accepted. -/
def accepts (r : Rules) (s : State) : Op → List Extrinsic
  | .submit x watched =>
    match (s.submit r x watched).1 with
    | .ok _ => [x]
    | .error _ => []
  | _ => []

/-- The transactions that an operation puts into a block, in their order. -/
def executes (r : Rules) (s : State) : Op → List PoolEntry
  | .submit x watched =>
    match (s.submit r x watched).1, s.validate r x with
    | .ok _, .ok (call, placement) =>
      if r.sealMode = .instant then (s.accept r x watched call placement).ready else []
    | _, _ => []
  | .block => if s.closed then [] else s.ready
  | _ => []

theorem executes_block {s : State} (r : Rules) (hopen : s.closed = false) :
    s.executes r .block = s.ready := by
  unfold executes
  rw [hopen]
  rfl

end State

/-- A run of a ledger with what it did. -/
structure Chronicle where
  state : State
  /-- The accepted transactions, in the order they came. -/
  accepted : List Extrinsic := []
  /-- The executed transactions, in the order of their execution. -/
  executed : List PoolEntry := []

namespace Chronicle

def step (r : Rules) (h : Chronicle) (op : Op) : Chronicle where
  state := h.state.step r op
  accepted := h.accepted ++ h.state.accepts r op
  executed := h.executed ++ h.state.executes r op

def run (r : Rules) (h : Chronicle) (ops : List Op) : Chronicle := ops.foldl (step r) h

def initial (r : Rules) : Chronicle := { state := State.initial r }

theorem run_state (r : Rules) (h : Chronicle) (ops : List Op) :
    (h.run r ops).state = h.state.run r ops := by
  induction ops generalizing h with
  | nil => rfl
  | cons op ops ih => exact ih (h.step r op)

/-- Every accepted transaction is accounted for. -/
structure Accounted (r : Rules) (h : Chronicle) : Prop where
  /-- The accepted transactions are those that are executed, ready or behind a gap. -/
  places : ((h.executed ++ h.state.ready ++ h.state.future).map (·.extrinsic)).Perm h.accepted
  /-- No two of them share account and nonce, so each has one place. -/
  apart : (h.executed ++ h.state.ready ++ h.state.future).Pairwise fun e f =>
    ¬(e.signer = f.signer ∧ e.nonce = f.nonce)
  once : h.accepted.Nodup
  hash_eq : ∀ e ∈ h.executed ++ h.state.ready ++ h.state.future, e.hash = e.extrinsic.hash
  /-- The log has one event for each executed transaction, in their order. -/
  events : h.state.events.map (·.tx) = h.executed.map (·.hash)
  /-- The executed transactions of an account carry the nonces from zero on. -/
  in_order : ∀ a, (h.executed.filter (·.signer = a)).map (·.nonce.toNat) =
    List.range (h.executed.countP (·.signer = a))
  /-- The account's own nonce is their number. -/
  stored : ∀ a, (r.nonce h.state.best a).toNat = h.executed.countP (·.signer = a)

/-! ## One operation -/

/-- What is kept up from operation to operation; that no two transactions are the same follows. -/
structure Kept (r : Rules) (s : State) (accepted : List Extrinsic) (executed : List PoolEntry) :
    Prop where
  places : ((executed ++ (s.ready ++ s.future)).map (·.extrinsic)).Perm accepted
  hash_eq : ∀ e ∈ executed ++ (s.ready ++ s.future), e.hash = e.extrinsic.hash
  events : s.events.map (·.tx) = executed.map (·.hash)
  in_order : ∀ a, (executed.filter (·.signer = a)).map (·.nonce.toNat) =
    List.range (executed.countP (·.signer = a))
  stored : ∀ a, (r.nonce s.best a).toNat = executed.countP (·.signer = a)

namespace Kept

variable {r : Rules} {s : State} {accepted : List Extrinsic} {executed : List PoolEntry}
  {taken : Nat}

theorem initial (r : Rules) : Kept r (State.initial r) [] [] := by
  refine ⟨List.Perm.refl _, ?_, rfl, fun _ => rfl, fun _ => rfl⟩
  intro e he
  cases he

theorem accept (h : Kept r s accepted executed) (x : Extrinsic) (watched : Bool) (call : Call)
    (placement : Placement) :
    Kept r (s.accept r x watched call placement) (accepted ++ [x]) executed := by
  have hperm : (executed ++ ((s.accept r x watched call placement).ready ++
      (s.accept r x watched call placement).future)).Perm
      (executed ++ (s.ready ++ s.future) ++ [⟨x.hash, x, call⟩]) := by
    rw [List.append_assoc executed]
    exact (State.accept_perm r x watched call placement s).append_left executed
  refine ⟨?_, ?_, ?_, h.in_order, ?_⟩
  · refine (hperm.map _).trans ?_
    rw [List.map_append]
    exact h.places.append_right [x]
  · intro e he
    rcases List.mem_append.1 (hperm.mem_iff.1 he) with he | he
    · exact h.hash_eq e he
    · rw [List.mem_singleton.1 he]
  · rw [State.accept_events]
    exact h.events
  · intro a
    rw [State.accept_best]
    exact h.stored a

/-- The ready transactions become executed ones. -/
theorem sealed {t : State} (h : Kept r s accepted executed) (separate : r.keys.Separate)
    (hpool : State.Pooled r s taken) (few : taken < UInt32.size) (hsealed : State.Sealed r s t) :
    Kept r t accepted (executed ++ s.ready) := by
  have hassoc : executed ++ s.ready ++ (t.ready ++ t.future) =
      executed ++ (s.ready ++ s.future) := by
    rw [hsealed.ready, hsealed.future, List.nil_append, List.append_assoc]
  refine ⟨?_, ?_, ?_, ?_, ?_⟩
  · rw [hassoc]
    exact h.places
  · rw [hassoc]
    exact h.hash_eq
  · rw [hsealed.events_tx, List.map_append, h.events]
  · intro a
    rw [List.filter_append, List.map_append, h.in_order, hpool.ready_nonces, h.stored,
      List.countP_append, List.range_eq_range', List.range_eq_range']
    have hjoin := @List.range'_append_1 0 (executed.countP (·.signer = a))
      (s.ready.countP (·.signer = a))
    rwa [Nat.zero_add] at hjoin
  · intro a
    have hnext : (r.nonce s.best a).toNat + s.ready.countP (·.signer = a) < UInt32.size :=
      hpool.nextNonce_lt few a
    rw [hsealed.best, Rules.toNat_nonce_executeAll separate.disjoint _ _ _ hnext, h.stored,
      List.countP_append]

theorem fund (h : Kept r s accepted executed) (account : AccountId) (free : Amount) :
    Kept r (s.fund r account free) accepted executed := by
  refine ⟨h.places, h.hash_eq, h.events, h.in_order, ?_⟩
  intro a
  rw [State.nonce_fund]
  exact h.stored a

theorem sealIfInstant (h : Kept r s accepted executed) (separate : r.keys.Separate)
    (hpool : State.Steady r s taken) (few : taken < UInt32.size) :
    Kept r (s.sealIfInstant r) accepted
      (executed ++ if r.sealMode = .instant then s.ready else []) := by
  cases hmode : r.sealMode with
  | manual =>
    rw [State.sealIfInstant_of_manual hmode, if_neg (by decide), List.append_nil]
    exact h
  | instant =>
    rw [if_pos rfl]
    exact h.sealed separate hpool.pooled few (hpool.orderly.sealed_sealIfInstant separate.disjoint hmode)

theorem step (h : Kept r s accepted executed) (separate : r.keys.Separate)
    (hpool : State.Steady r s taken) (op : Op) (hop : op ≠ .close)
    (few : taken + Op.submissions [op] < UInt32.size) :
    Kept r (s.step r op) (accepted ++ s.accepts r op) (executed ++ s.executes r op) := by
  cases op with
  | submit x watched =>
    have few' : taken + 1 < UInt32.size := few
    unfold State.accepts State.executes State.step
    rcases State.submit_cases r x watched s with ⟨e, heq⟩ | ⟨call, placement, -, hvalid, heq⟩
    · simp only [heq, List.append_nil]
      exact h
    · have hnext := hpool.accept (State.validate_eq_ok_iff.1 hvalid) watched
      simp only [heq, hvalid]
      exact (h.accept x watched call placement).sealIfInstant separate hnext few'
  | block =>
    unfold State.accepts State.executes State.step
    rw [List.append_nil]
    cases hclosed : s.closed with
    | true =>
      rw [State.requestSeal_of_closed hclosed, if_pos rfl, List.append_nil]
      exact h
    | false =>
      have few' : taken < UInt32.size := Nat.lt_of_le_of_lt (Nat.le_add_right _ _) few
      rw [State.requestSeal_of_open hclosed, hpool.orderly.sealBlock_eq separate.disjoint,
        if_neg Bool.false_ne_true]
      exact h.sealed separate hpool.pooled few' (State.sealed_withBlock r s)
  | fund account free =>
    unfold State.accepts State.executes State.step
    rw [List.append_nil, List.append_nil]
    exact h.fund account free
  | close => exact absurd rfl hop

/-- Executed transactions carry nonces that are used up, those in the pool nonces that are not. -/
theorem apart (h : Kept r s accepted executed) (hpool : State.Steady r s taken) :
    (executed ++ s.ready ++ s.future).Pairwise State.Apart := by
  have hused : ∀ e ∈ executed, e.nonce.toNat < (r.nonce s.best e.signer).toNat := by
    intro e he
    have hmem : e.nonce.toNat ∈ (executed.filter (·.signer = e.signer)).map (·.nonce.toNat) :=
      List.mem_map_of_mem (List.mem_filter.2 ⟨he, decide_eq_true rfl⟩)
    rw [h.in_order, ← h.stored] at hmem
    exact List.mem_range.1 hmem
  have hfree : ∀ e ∈ s.ready ++ s.future, (r.nonce s.best e.signer).toNat ≤ e.nonce.toNat := by
    intro e he
    rcases List.mem_append.1 he with he | he
    · have hmem : e.nonce.toNat ∈ (s.ready.filter (·.signer = e.signer)).map (·.nonce.toNat) :=
        List.mem_map_of_mem (List.mem_filter.2 ⟨he, decide_eq_true rfl⟩)
      rw [hpool.pooled.ready_nonces] at hmem
      exact (List.mem_range'_1.1 hmem).1
    · exact Nat.le_trans (Nat.le_add_right _ _) (hpool.pooled.from_next e he)
  rw [List.append_assoc]
  refine List.pairwise_append.2 ⟨?_, hpool.pooled.apart, ?_⟩
  · refine State.pairwise_apart fun a => ?_
    rw [h.in_order]
    exact List.nodup_range
  · intro e he f hf hsigner hnonce
    have he' := hused e he
    have hf' := hfree f hf
    rw [hsigner, hnonce] at he'
    omega

theorem accounted {h : Chronicle} (hkept : Kept r h.state h.accepted h.executed)
    (hpool : State.Steady r h.state taken) : Accounted r h where
  places := by
    rw [List.append_assoc]
    exact hkept.places
  apart := (hkept.apart hpool).imp fun hapart hsame => hapart hsame.1 hsame.2
  once := by
    have hdistinct : ((h.executed ++ h.state.ready ++ h.state.future).map (·.extrinsic)).Nodup := by
      refine List.pairwise_map.2 ((hkept.apart hpool).imp ?_)
      intro e f hapart hsame
      exact hapart (congrArg Extrinsic.signer hsame) (congrArg Extrinsic.nonce hsame)
    rw [List.append_assoc] at hdistinct
    exact hkept.places.nodup_iff.1 hdistinct
  hash_eq := by
    rw [List.append_assoc]
    exact hkept.hash_eq
  events := hkept.events
  in_order := hkept.in_order
  stored := hkept.stored

end Kept

/-! ## Every run -/

theorem kept_run {r : Rules} (separate : r.keys.Separate) {h : Chronicle} {taken : Nat}
    (hkept : Kept r h.state h.accepted h.executed) (hpool : State.Steady r h.state taken)
    (ops : List Op) (hopen : Op.close ∉ ops) (few : taken + Op.submissions ops < UInt32.size - 1) :
    Kept r (h.run r ops).state (h.run r ops).accepted (h.run r ops).executed := by
  induction ops generalizing h taken with
  | nil => exact hkept
  | cons op ops ih =>
    obtain ⟨hop, hrest⟩ := not_or.1 (mt List.mem_cons.2 hopen)
    have hcount : Op.submissions (op :: ops) = Op.submissions [op] + Op.submissions ops :=
      Op.submissions_append [op] ops
    rw [hcount, ← Nat.add_assoc] at few
    have hstep := hkept.step separate hpool op (Ne.symm hop) (by omega)
    exact ih (h := h.step r op) hstep (hpool.step separate op (by omega)) hrest few

/-- **Nothing is lost, doubled or put out of order.** Whatever is done with a ledger before it is
closed, its chronicle accounts for every transaction that was accepted. -/
theorem run_accounted (c : Config) (separate : (StorageKeys.ofLayout c.layout).Separate)
    (ops : List Op) (hopen : Op.close ∉ ops) (few : Op.Few ops) :
    let r := Rules.ofConfig c
    let h := (Chronicle.initial r).run r ops
    h.state = (State.initial r).run r ops ∧ Accounted r h := by
  intro r h
  have hfew : 0 + Op.submissions ops < UInt32.size - 1 := by
    rw [Nat.zero_add]
    exact few
  have hstate : h.state = (State.initial r).run r ops := run_state r _ ops
  have hpool := (State.Steady.initial r).run separate ops hfew
  rw [← hstate] at hpool
  have hkept : Kept r h.state h.accepted h.executed :=
    kept_run separate (Kept.initial r) (State.Steady.initial r) ops hopen hfew
  exact ⟨hstate, hkept.accounted hpool⟩

theorem run_accounted_outOfOrder :
    let r := Rules.ofConfig { sealMode := .manual }
    let h := (Chronicle.initial r).run r (Op.outOfOrder ++ [.block])
    h.state = (State.initial r).run r (Op.outOfOrder ++ [.block]) ∧ Accounted r h := by
  have separate : (StorageKeys.ofLayout {}).Separate := by decide +kernel
  have hopen : Op.close ∉ Op.outOfOrder ++ [.block] := by decide +kernel
  exact run_accounted { sealMode := .manual } separate _ hopen (by decide +kernel)

end Chronicle

end MetaLedger.Ledger
