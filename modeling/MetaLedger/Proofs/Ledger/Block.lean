import MetaLedger.Proofs.Ledger.Promotion

/-!
# What a block changes

Sealing executes the ready transactions, logs them, answers those who wait for them, and then looks
for transactions whose turn has come. `withBlock` is the state before that last look, which changes
nothing where no one is due (`NoneDue.sealBlock_eq`). Answering someone changes nothing but who waits
and what has been told, so the fields of `withBlock` are read off the executed transactions alone.
-/

namespace MetaLedger.Ledger.State

/-! ## Answering those who wait -/

section Settle

variable (tx : TxHash) (reply : Except Node.Error Receipt) (s : State)

@[simp] theorem settle_head : (s.settle tx reply).head = s.head := by unfold settle; split <;> rfl

@[simp] theorem settle_number : (s.settle tx reply).number = s.number := by
  unfold settle; split <;> rfl

@[simp] theorem settle_best : (s.settle tx reply).best = s.best := by unfold settle; split <;> rfl

@[simp] theorem settle_past : (s.settle tx reply).past = s.past := by unfold settle; split <;> rfl

@[simp] theorem settle_ready : (s.settle tx reply).ready = s.ready := by unfold settle; split <;> rfl

@[simp] theorem settle_future : (s.settle tx reply).future = s.future := by
  unfold settle; split <;> rfl

@[simp] theorem settle_nextTicket : (s.settle tx reply).nextTicket = s.nextTicket := by
  unfold settle; split <;> rfl

@[simp] theorem settle_events : (s.settle tx reply).events = s.events := by
  unfold settle; split <;> rfl

@[simp] theorem settle_closed : (s.settle tx reply).closed = s.closed := by
  unfold settle; split <;> rfl

@[simp] theorem watch_head : (s.watch tx).head = s.head := settle_head tx _ s

@[simp] theorem watch_number : (s.watch tx).number = s.number := settle_number tx _ s

@[simp] theorem watch_best : (s.watch tx).best = s.best := settle_best tx _ s

@[simp] theorem watch_past : (s.watch tx).past = s.past := settle_past tx _ s

@[simp] theorem watch_ready : (s.watch tx).ready = s.ready := settle_ready tx _ s

@[simp] theorem watch_future : (s.watch tx).future = s.future := settle_future tx _ s

@[simp] theorem watch_events : (s.watch tx).events = s.events := settle_events tx _ s

@[simp] theorem watch_closed : (s.watch tx).closed = s.closed := settle_closed tx _ s

end Settle

/-! ## Logging a block -/

section Record

variable (s : State) (txs : List Rules.Executed)

theorem foldl_record_eq {α : Type} (field : State → α)
    (h : ∀ s tx, field (record s tx) = field s) : field (txs.foldl record s) = field s := by
  induction txs generalizing s with
  | nil => rfl
  | cons tx rest ih => rw [List.foldl_cons, ih, h]

theorem foldl_record_head : (txs.foldl record s).head = s.head :=
  foldl_record_eq s txs head fun _ _ => settle_head ..

theorem foldl_record_number : (txs.foldl record s).number = s.number :=
  foldl_record_eq s txs number fun _ _ => settle_number ..

theorem foldl_record_best : (txs.foldl record s).best = s.best :=
  foldl_record_eq s txs best fun _ _ => settle_best ..

theorem foldl_record_past : (txs.foldl record s).past = s.past :=
  foldl_record_eq s txs past fun _ _ => settle_past ..

theorem foldl_record_ready : (txs.foldl record s).ready = s.ready :=
  foldl_record_eq s txs ready fun _ _ => settle_ready ..

theorem foldl_record_future : (txs.foldl record s).future = s.future :=
  foldl_record_eq s txs future fun _ _ => settle_future ..

theorem foldl_record_nextTicket : (txs.foldl record s).nextTicket = s.nextTicket :=
  foldl_record_eq s txs nextTicket fun _ _ => settle_nextTicket ..

theorem foldl_record_closed : (txs.foldl record s).closed = s.closed :=
  foldl_record_eq s txs closed fun _ _ => settle_closed ..

/-- Each transaction is logged once, in its place. -/
theorem foldl_record_events : (txs.foldl record s).events =
    s.events ++ txs.map fun tx => ⟨s.number, tx.hash, tx.event⟩ := by
  induction txs generalizing s with
  | nil => exact (List.append_nil _).symm
  | cons tx rest ih =>
    have hevents : (record s tx).events = s.events ++ [⟨s.number, tx.hash, tx.event⟩] :=
      settle_events ..
    have hnumber : (record s tx).number = s.number := settle_number ..
    rw [List.foldl_cons, ih, hevents, hnumber, List.append_assoc]
    rfl

end Record

/-! ## Sealing -/

/-- The head moves to a block of the ready transactions. -/
def advance (r : Rules) (s : State) : State :=
  { s with
    head := blockHash s.head (s.number + 1) (s.ready.map PoolEntry.hash)
    number := s.number + 1
    best := (r.executeAll s.best s.ready).1
    past := ((s.head, s.best) :: s.past).take (r.stateHistory - 1)
    ready := [] }

/-- The state with the ready transactions in a block, before anyone else has their turn. -/
def withBlock (r : Rules) (s : State) : State :=
  (r.executeAll s.best s.ready).2.foldl record (s.advance r)

section WithBlock

variable (r : Rules) (s : State)

@[simp] theorem withBlock_head :
    (s.withBlock r).head = blockHash s.head (s.number + 1) (s.ready.map PoolEntry.hash) :=
  foldl_record_head ..

@[simp] theorem withBlock_number : (s.withBlock r).number = s.number + 1 := foldl_record_number ..

@[simp] theorem withBlock_best : (s.withBlock r).best = (r.executeAll s.best s.ready).1 :=
  foldl_record_best ..

@[simp] theorem withBlock_past :
    (s.withBlock r).past = ((s.head, s.best) :: s.past).take (r.stateHistory - 1) :=
  foldl_record_past ..

@[simp] theorem withBlock_ready : (s.withBlock r).ready = [] := foldl_record_ready ..

@[simp] theorem withBlock_future : (s.withBlock r).future = s.future := foldl_record_future ..

@[simp] theorem withBlock_nextTicket : (s.withBlock r).nextTicket = s.nextTicket :=
  foldl_record_nextTicket ..

@[simp] theorem withBlock_closed : (s.withBlock r).closed = s.closed := foldl_record_closed ..

theorem withBlock_events : (s.withBlock r).events =
    s.events ++ (r.executeAll s.best s.ready).2.map fun tx => ⟨s.number + 1, tx.hash, tx.event⟩ :=
  foldl_record_events ..

theorem sealBlock_eq_foldl_promote : s.sealBlock r =
    (s.withBlock r).waiting.foldl (fun s signer => s.promote r signer) (s.withBlock r) := rfl

/-! What sealing does besides promotion does not depend on who is promoted. -/

theorem sealBlock_best : (s.sealBlock r).best = (r.executeAll s.best s.ready).1 := by
  rw [sealBlock_eq_foldl_promote, foldl_promote_eq r best fun _ _ => rfl, withBlock_best]

theorem sealBlock_number : (s.sealBlock r).number = s.number + 1 := by
  rw [sealBlock_eq_foldl_promote, foldl_promote_eq r number fun _ _ => rfl, withBlock_number]

theorem sealBlock_past :
    (s.sealBlock r).past = ((s.head, s.best) :: s.past).take (r.stateHistory - 1) := by
  rw [sealBlock_eq_foldl_promote, foldl_promote_eq r past fun _ _ => rfl, withBlock_past]

theorem sealBlock_events : (s.sealBlock r).events =
    s.events ++ (r.executeAll s.best s.ready).2.map fun tx => ⟨s.number + 1, tx.hash, tx.event⟩ := by
  rw [sealBlock_eq_foldl_promote, foldl_promote_eq r events fun _ _ => rfl, withBlock_events]

theorem sealBlock_closed : (s.sealBlock r).closed = s.closed := by
  rw [sealBlock_eq_foldl_promote, foldl_promote_eq r closed fun _ _ => rfl, withBlock_closed]

/-- Who waits after sealing has waited for an earlier nonce before. -/
theorem sealBlock_perm :
    ((s.sealBlock r).ready ++ (s.sealBlock r).future).Perm s.future := by
  have hpromoted := foldl_promote_perm r (s.withBlock r).waiting (s.withBlock r)
  rwa [withBlock_ready, withBlock_future, List.nil_append] at hpromoted

variable {r s} in
theorem NoneDue.sealBlock_eq (h : (s.withBlock r).NoneDue r) : s.sealBlock r = s.withBlock r := by
  rw [sealBlock_eq_foldl_promote, h.foldl_promote]

end WithBlock

/-! ## With and without the block -/

/-- What happened, without the blocks it happened in. -/
def log (s : State) : List (TxHash × Event) := s.events.map fun e => (e.tx, e.event)

/-- `t` is `s` with its ready transactions in blocks, as far as entries, pool and log go. -/
structure Sealed (r : Rules) (s t : State) : Prop where
  best : t.best = (r.executeAll s.best s.ready).1
  ready : t.ready = []
  future : t.future = s.future
  log : t.log = s.log ++ (r.executeAll s.best s.ready).2.map fun tx => (tx.hash, tx.event)
  closed : t.closed = s.closed

theorem sealed_withBlock (r : Rules) (s : State) : Sealed r s (s.withBlock r) where
  best := withBlock_best r s
  ready := withBlock_ready r s
  future := withBlock_future r s
  log := by
    unfold State.log
    rw [withBlock_events, List.map_append, List.map_map]
    rfl
  closed := withBlock_closed r s

/-- Nothing has to be put into a block where nothing is ready. -/
theorem sealed_self {r : Rules} {s : State} (h : s.ready = []) : Sealed r s s where
  best := by rw [h]; rfl
  ready := h
  future := rfl
  log := by rw [h]; exact (List.append_nil _).symm
  closed := rfl

theorem Sealed.events_tx {r : Rules} {s t : State} (h : Sealed r s t) :
    t.events.map (·.tx) = s.events.map (·.tx) ++ s.ready.map (·.hash) := by
  have hlog := congrArg (List.map Prod.fst) h.log
  unfold State.log at hlog
  rw [List.map_append, List.map_map, List.map_map, List.map_map] at hlog
  rw [← r.executeAll_hash s.best s.ready]
  exact hlog

end MetaLedger.Ledger.State
