import MetaLedger.Proofs.Ledger.History
import MetaLedger.Proofs.Ledger.SealPlacement

/-!
# One queue

From some state on, the transactions in blocks and the ready ones are one queue, in their order: the ones
that were ready at first, and behind them what arrivals have added since (`Queued`). Where the blocks
end makes no difference to what has come of the executed ones. So once a last block is sealed, entries
and log can be told from what was added alone (`Queued.sealed_all`).
-/

namespace MetaLedger.Ledger.State

variable {r : Rules} {s t u : State} {added executed : List PoolEntry}

/-- `t` is `s` with `added` behind its ready transactions and the first ones of all these in blocks. -/
structure Queued (r : Rules) (s : State) (added executed : List PoolEntry) (t : State) : Prop where
  queue : executed ++ t.ready = s.ready ++ added
  best : t.best = (r.executeAll s.best executed).1
  log : t.log = s.log ++ (r.executeAll s.best executed).2.map fun tx => (tx.hash, tx.event)
  closed : t.closed = s.closed

namespace Queued

theorem refl (r : Rules) (s : State) : Queued r s [] [] s :=
  ⟨(List.append_nil _).symm, rfl, (List.append_nil _).symm, rfl⟩

/-- The ready transactions go into blocks. -/
theorem sealed (h : Queued r s added executed t) (hsealed : Sealed r t u) :
    Queued r s added (executed ++ t.ready) u where
  queue := by rw [hsealed.ready, List.append_nil, h.queue]
  best := by rw [hsealed.best, h.best, Rules.executeAll_append]
  log := by
    rw [hsealed.log, h.log, h.best, Rules.executeAll_append, List.map_append, List.append_assoc]
  closed := hsealed.closed.trans h.closed

theorem accept (h : Queued r s added executed t) (x : Extrinsic) (watched : Bool) (call : Call)
    (placement : Placement) :
    Queued r s
      (added ++ (arrival (expectedNonce r t.best t.ready x.signer) t.future ⟨x.hash, x, call⟩
        placement).1)
      executed (t.accept r x watched call placement) where
  queue := by rw [accept_ready, ← List.append_assoc, h.queue, List.append_assoc]
  best := by rw [accept_best, h.best]
  log := by rw [accept_log, h.log]
  closed := by rw [accept_closed, h.closed]

section Disjoint

variable (disjoint : r.keys.Disjoint)

include disjoint

/-- An accepted transaction brings those with it that waited for it. -/
theorem submit (h : Queued r s added executed t) (horder : Orderly r t) {x : Extrinsic} {call : Call}
    {placement : Placement} (hopen : t.closed = false) (hvalid : t.Valid r x call placement)
    (watched : Bool) :
    let came := arrival (expectedNonce r t.best t.ready x.signer) t.future ⟨x.hash, x, call⟩ placement
    Queued r s (added ++ came.1) (executed ++ t.executes r (.submit x watched))
        (t.submit r x watched).2 ∧
      (t.submit r x watched).2.future = came.2 := by
  intro came
  have haccept := h.accept x watched call placement
  have hfuture := accept_future r x watched call placement t
  have hchecked := validate_eq_ok_iff.2 hvalid
  unfold executes
  simp only [submit_of_ok hopen hchecked, hchecked]
  cases hmode : r.sealMode with
  | manual =>
    rw [sealIfInstant_of_manual hmode, if_neg (by decide), List.append_nil]
    exact ⟨haccept, hfuture⟩
  | instant =>
    have hsealed := (horder.accept hvalid watched).sealed_sealIfInstant disjoint hmode
    rw [if_pos rfl]
    exact ⟨haccept.sealed hsealed, hsealed.future.trans hfuture⟩

/-- A block takes all that is ready. -/
theorem block (h : Queued r s added executed t) (horder : Orderly r t) (hopen : t.closed = false) :
    Queued r s added (executed ++ t.executes r .block) (t.requestSeal r).2 ∧
      (t.requestSeal r).2.future = t.future ∧ (t.requestSeal r).2.ready = [] := by
  rw [requestSeal_of_open hopen, horder.sealBlock_eq disjoint, executes_block r hopen]
  exact ⟨h.sealed (sealed_withBlock r t), withBlock_future r t, withBlock_ready r t⟩

/-- After a last block, entries and log are those of the whole queue. -/
theorem sealed_all (h : Queued r s added executed t) (horder : Orderly r t)
    (hopen : t.closed = false) :
    (t.requestSeal r).2.best = (r.executeAll s.best (s.ready ++ added)).1 ∧
      (t.requestSeal r).2.log = s.log ++
        (r.executeAll s.best (s.ready ++ added)).2.map fun tx => (tx.hash, tx.event) := by
  obtain ⟨hblock, -, hready⟩ := h.block disjoint horder hopen
  have hqueue := hblock.queue
  rw [hready, List.append_nil] at hqueue
  rw [hqueue] at hblock
  exact ⟨hblock.best, hblock.log⟩

/-- The next nonce of an account has moved past what was added of it. -/
theorem nextNonce_eq (h : Queued r s added executed t) (a : AccountId)
    (few : nextNonce r s a + added.countP (·.signer = a) < UInt32.size) :
    nextNonce r t a = nextNonce r s a + added.countP (·.signer = a) := by
  have hcount := congrArg (List.countP (·.signer = a)) h.queue
  rw [List.countP_append, List.countP_append] at hcount
  unfold nextNonce at few ⊢
  rw [h.best, Rules.toNat_nonce_executeAll disjoint _ _ _ (by omega)]
  omega

end Disjoint

theorem isUnfunded_eq (separate : r.keys.Separate) (h : Queued r s added executed t) (a : AccountId) :
    t.isUnfunded r a = s.isUnfunded r a := by
  rw [State.isUnfunded_eq, State.isUnfunded_eq, h.best, Rules.free_executeAll separate]

end Queued

end MetaLedger.Ledger.State
