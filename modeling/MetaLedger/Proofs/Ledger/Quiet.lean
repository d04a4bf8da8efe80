import MetaLedger.Ledger.Service
import MetaLedger.Proofs.Ledger.Run

/-!
# One transaction at a time

A ledger that seals at once is quiet between transactions that come one after the other: nothing is in
the pool, and no one waits for a receipt (`Quiet`). A transaction at the nonce of its signer is then
accepted, executed in a block of its own, and its sender is told at once if it waits (`Quiet.submit`).
-/

namespace MetaLedger.Ledger.State

variable {r : Rules} {s : State}

/-- Nothing is in the pool, and no one waits for a receipt. -/
structure Quiet (s : State) : Prop where
  isOpen : s.closed = false
  ready : s.ready = []
  future : s.future = []
  watchers : s.watchers = []
  settled : ∀ answer ∈ s.settled, answer.1 < s.nextTicket

theorem quiet_initial (r : Rules) : Quiet (State.initial r) :=
  ⟨rfl, rfl, rfl, rfl, fun _ h => nomatch h⟩

/-! ## Receipts -/

theorem settle_of_nil {tx : TxHash} {reply : Except Node.Error Receipt} (h : s.watchers = []) :
    s.settle tx reply = s := by
  unfold settle
  rw [h]
  rfl

theorem settle_of_singleton {tx : TxHash} {ticket : Ticket} {reply : Except Node.Error Receipt}
    (h : s.watchers = [(tx, ticket)]) :
    s.settle tx reply =
      { s with watchers := [], settled := s.settled ++ [(ticket, reply)] } := by
  unfold settle
  rw [h]
  simp

theorem record_of_unwatched {tx : Rules.Executed} (h : s.watchers = []) :
    (s.record tx).watchers = [] ∧ (s.record tx).settled = s.settled := by
  have hrecord : s.record tx = { s with events := s.events ++ [⟨s.number, tx.hash, tx.event⟩] } :=
    settle_of_nil h
  rw [hrecord]
  exact ⟨h, rfl⟩

theorem record_of_watched {tx : Rules.Executed} {ticket : Ticket}
    (h : s.watchers = [(tx.hash, ticket)]) :
    (s.record tx).watchers = [] ∧ (s.record tx).settled =
      s.settled ++ [(ticket, .ok ⟨tx.hash, s.head, s.number, Rules.outcomeOf tx.event⟩)] := by
  have hrecord : s.record tx = { s with
      events := s.events ++ [⟨s.number, tx.hash, tx.event⟩]
      watchers := []
      settled := s.settled ++
        [(ticket, .ok ⟨tx.hash, s.head, s.number, Rules.outcomeOf tx.event⟩)] } :=
    settle_of_singleton h
  rw [hrecord]
  exact ⟨rfl, rfl⟩

theorem answer?_append {answers : List (Ticket × Except Node.Error Receipt)} {ticket : Ticket}
    {reply : Except Node.Error Receipt} (hanswers : s.settled = answers ++ [(ticket, reply)])
    (h : ∀ answer ∈ answers, answer.1 < ticket) : s.answer? ticket = some reply := by
  have hnone : answers.find? (·.1 = ticket) = none := by
    refine List.find?_eq_none.2 fun answer ha heq => ?_
    exact Nat.ne_of_lt (h answer ha) (of_decide_eq_true heq)
  unfold answer?
  rw [hanswers, List.find?_append, hnone]
  simp

/-! ## A block of one transaction -/

theorem withBlock_of_singleton {entry : PoolEntry} (h : s.ready = [entry]) :
    s.withBlock r = (s.advance r).record (r.execute s.best entry).2 := by
  unfold withBlock
  rw [h]
  rfl

theorem withBlock_of_unwatched {entry : PoolEntry} (hready : s.ready = [entry])
    (hwatchers : s.watchers = []) :
    (s.withBlock r).watchers = [] ∧ (s.withBlock r).settled = s.settled := by
  have hwatchers' : (s.advance r).watchers = [] := hwatchers
  rw [withBlock_of_singleton hready]
  exact record_of_unwatched hwatchers'

/-- Whoever waits for the transaction is told of the block. -/
theorem withBlock_of_watched {entry : PoolEntry} {ticket : Ticket} (hready : s.ready = [entry])
    (hwatchers : s.watchers = [(entry.hash, ticket)]) :
    (s.withBlock r).watchers = [] ∧
      (s.withBlock r).settled = s.settled ++ [(ticket, .ok ⟨entry.hash, (s.withBlock r).head,
        (s.withBlock r).number, Rules.outcomeOf (r.execute s.best entry).2.event⟩)] := by
  have hhash := r.execute_hash s.best entry
  have hwatchers' : (s.advance r).watchers = [((r.execute s.best entry).2.hash, ticket)] := by
    rw [hhash]
    exact hwatchers
  obtain ⟨hnone, hmore⟩ := record_of_watched hwatchers'
  rw [hhash] at hmore
  rw [withBlock_head, withBlock_number, withBlock_of_singleton hready]
  exact ⟨hnone, hmore⟩

theorem sealIfInstant_of_singleton {entry : PoolEntry} (instant : r.sealMode = .instant)
    (hready : s.ready = [entry]) (hfuture : s.future = []) :
    s.sealIfInstant r = s.withBlock r := by
  have hnone : (s.withBlock r).NoneDue r := by
    intro e he
    rw [withBlock_future, hfuture] at he
    cases he
  have hne : s.ready ≠ [] := hready ▸ List.cons_ne_nil entry []
  rw [sealIfInstant_of_ready instant hne]
  exact hnone.sealBlock_eq

/-! ## Submission -/

section Submission

variable {x : Extrinsic} {call : Call}

/-- At the signer's own nonce, a transaction is ready at once. -/
theorem Quiet.valid_of_funded (h : Quiet s)
    (hfunded : (r.requireFunded && s.isUnfunded r x.signer) = false)
    (hverified : x.verify r.chain = .ok ()) (hcall : r.call? x.call = some call)
    (hnonce : x.nonce = r.nonce s.best x.signer) : s.Valid r x call .ready where
  verified := ⟨(), hverified⟩
  call_eq := hcall
  funded := hfunded
  not_stale := by rw [hnonce]; exact UInt32.lt_irrefl _
  not_pending := by
    refine isPending_eq_false_iff.2 fun e he => ?_
    rw [h.ready, h.future] at he
    cases he
  place_eq := by
    have hexpected : expectedNonce r s.best s.ready x.signer = x.nonce := by
      rw [h.ready, hnonce]
      exact UInt32.add_zero _
    rw [hexpected, place, if_pos rfl]

theorem Quiet.valid (h : Quiet s) (hfree : r.requireFunded = false)
    (hverified : x.verify r.chain = .ok ()) (hcall : r.call? x.call = some call)
    (hnonce : x.nonce = r.nonce s.best x.signer) : s.Valid r x call .ready :=
  h.valid_of_funded (by rw [hfree, Bool.false_and]) hverified hcall hnonce

theorem Quiet.accept_queues (h : Quiet s) (x : Extrinsic) (call : Call) (watched : Bool) :
    (s.accept r x watched call .ready).ready = [⟨x.hash, x, call⟩] ∧
      (s.accept r x watched call .ready).future = [] := by
  have hdue : ∀ next, due x.signer next [] = ([], []) := fun next => due_of_none rfl
  constructor
  · rw [accept_ready, h.ready, h.future]
    simp only [arrival, PoolEntry.signer, hdue, List.nil_append]
  · rw [accept_future, h.future]
    simp only [arrival, PoolEntry.signer, hdue]

theorem Quiet.accept_watchers (h : Quiet s) (x : Extrinsic) (call : Call) (watched : Bool) :
    (s.accept r x watched call .ready).watchers =
        (if watched then [(x.hash, s.nextTicket)] else []) ∧
      (s.accept r x watched call .ready).settled = s.settled ∧
      (s.accept r x watched call .ready).nextTicket =
        (if watched then s.nextTicket + 1 else s.nextTicket) := by
  unfold accept
  cases watched with
  | false =>
    rw [enqueue_eq]
    exact ⟨h.watchers, rfl, rfl⟩
  | true =>
    rw [enqueue_eq]
    unfold watch
    simp only [settle_of_nil h.watchers, if_true, h.watchers, List.nil_append, and_self]

/-- The transaction is executed in a block of its own. -/
theorem Quiet.submit (h : Quiet s) (instant : r.sealMode = .instant)
    (hvalid : s.Valid r x call .ready) (watched : Bool) :
    ∃ t, s.submit r x watched = (.ok x.hash, t) ∧ Quiet t ∧
      t.best = (r.execute s.best ⟨x.hash, x, call⟩).1 ∧
      (watched = true → t.answer? s.nextTicket = some (.ok ⟨x.hash, t.head, t.number,
        Rules.outcomeOf (r.execute s.best ⟨x.hash, x, call⟩).2.event⟩)) := by
  obtain ⟨hready, hfuture⟩ := h.accept_queues (r := r) x call watched
  have hsubmit := submit_of_ok h.isOpen (validate_eq_ok_iff.2 hvalid) watched
  rw [sealIfInstant_of_singleton instant hready hfuture] at hsubmit
  obtain ⟨hwatchers, hsettled, hticket⟩ := h.accept_watchers (r := r) x call watched
  have hbest : ((s.accept r x watched call .ready).withBlock r).best =
      (r.execute s.best ⟨x.hash, x, call⟩).1 := by
    rw [withBlock_best, hready, accept_best]
    rfl
  have hopen : ((s.accept r x watched call .ready).withBlock r).closed = false := by
    rw [withBlock_closed, accept_closed, h.isOpen]
  have hfuture' : ((s.accept r x watched call .ready).withBlock r).future = [] := by
    rw [withBlock_future, hfuture]
  refine ⟨_, hsubmit, ?_, hbest, ?_⟩
  · cases watched with
    | false =>
      obtain ⟨hnone, hsame⟩ := withBlock_of_unwatched (r := r) hready hwatchers
      refine ⟨hopen, withBlock_ready _ _, hfuture', hnone, ?_⟩
      rw [hsame, hsettled, withBlock_nextTicket, hticket]
      exact h.settled
    | true =>
      obtain ⟨hnone, hmore⟩ := withBlock_of_watched (r := r) hready hwatchers
      refine ⟨hopen, withBlock_ready _ _, hfuture', hnone, ?_⟩
      rw [hmore, hsettled, withBlock_nextTicket, hticket]
      intro answer hanswer
      rcases List.mem_append.1 hanswer with hold | hnew
      · exact Nat.lt_succ_of_lt (h.settled answer hold)
      · rw [List.mem_singleton.1 hnew]
        exact Nat.lt_succ_self _
  · intro hwatched
    subst hwatched
    obtain ⟨-, hmore⟩ := withBlock_of_watched (r := r) hready hwatchers
    rw [hsettled, accept_best] at hmore
    exact answer?_append hmore h.settled

end Submission

end MetaLedger.Ledger.State
