import Mathlib.Data.List.Nodup
import MetaLedger.Ledger.Service
import MetaLedger.Proofs.Ledger.Effects

/-!
# What those who wait are told

Answers are only ever added (`settled_prefix_run`), so who has been told something has been told it for
good. Whom an answer goes to is kept apart from it, in the table of those who wait. `Attending` says how
the two belong together: those who were promised an answer wait exactly as long as their transaction is
not logged, and each is answered at most once. Logging a transaction is the one step that moves someone
from the table to the answers (`Attending.record`); a block is a run of such steps.
-/

namespace MetaLedger.Ledger.State

variable {r : Rules} {s t : State}

/-! ## Answers stay -/

theorem settled_prefix_settle (tx : TxHash) (reply : Except Node.Error Receipt) (s : State) :
    s.settled <+: (s.settle tx reply).settled := by
  unfold settle
  split
  · exact List.prefix_rfl
  · exact List.prefix_append _ _

theorem settled_prefix_foldl_record (s : State) (txs : List Rules.Executed) :
    s.settled <+: (txs.foldl record s).settled := by
  induction txs generalizing s with
  | nil => exact List.prefix_rfl
  | cons tx rest ih =>
    have hfirst : s.settled <+: (s.record tx).settled := settled_prefix_settle tx.hash _
      { s with events := s.events ++ [⟨s.number, tx.hash, tx.event⟩] }
    exact hfirst.trans (ih (s.record tx))

section Fields

variable (r : Rules) (s : State)

theorem sealBlock_watchers : (s.sealBlock r).watchers = (s.withBlock r).watchers :=
  foldl_promote_eq r watchers (fun _ _ => rfl) _ _

theorem sealBlock_settled : (s.sealBlock r).settled = (s.withBlock r).settled :=
  foldl_promote_eq r settled (fun _ _ => rfl) _ _

theorem sealBlock_nextTicket : (s.sealBlock r).nextTicket = s.nextTicket := by
  rw [sealBlock_eq_foldl_promote, foldl_promote_eq r nextTicket fun _ _ => rfl, withBlock_nextTicket]

theorem sealBlock_head : (s.sealBlock r).head = (s.withBlock r).head :=
  foldl_promote_eq r head (fun _ _ => rfl) _ _

variable (x : Extrinsic) (watched : Bool) (call : Call) (placement : Placement)

theorem accept_watchers : (s.accept r x watched call placement).watchers =
    (if watched then s.watch x.hash else s).watchers := by
  unfold accept
  rw [enqueue_eq]

theorem accept_settled : (s.accept r x watched call placement).settled =
    (if watched then s.watch x.hash else s).settled := by
  unfold accept
  rw [enqueue_eq]

theorem accept_nextTicket : (s.accept r x watched call placement).nextTicket =
    if watched then s.nextTicket + 1 else s.nextTicket := by
  unfold accept
  rw [enqueue_eq]
  cases watched <;> rfl

end Fields

theorem settled_prefix_step (r : Rules) (s : State) (op : Op) :
    s.settled <+: (s.step r op).settled := by
  refine preserved_step (P := fun t => s.settled <+: t.settled) ?_ ?_ ?_ ?_ List.prefix_rfl op
  · intro t x watched call placement _ _ h
    rw [accept_settled]
    cases watched with
    | false => exact h
    | true => exact h.trans (settled_prefix_settle x.hash _ t)
  · intro t _ h
    rw [sealBlock_settled]
    exact h.trans (settled_prefix_foldl_record (t.advance r) _)
  · intro t account free h
    exact h
  · intro t h
    unfold State.close
    split
    · exact h
    · exact h.trans (List.prefix_append _ _)

theorem settled_prefix_run (r : Rules) (s : State) (ops : List Op) :
    s.settled <+: (s.run r ops).settled :=
  preserved_run (P := fun t => s.settled <+: t.settled)
    (fun t op h => h.trans (settled_prefix_step r t op)) List.prefix_rfl ops

theorem answer?_of_prefix {ticket : Ticket} {answer : Except Node.Error Receipt}
    (h : s.settled <+: t.settled) (ha : s.answer? ticket = some answer) :
    t.answer? ticket = some answer := by
  obtain ⟨more, heq⟩ := h
  unfold answer? at ha ⊢
  obtain ⟨a, hfind, rfl⟩ := Option.map_eq_some_iff.1 ha
  rw [← heq, List.find?_append, hfind]
  rfl

theorem answer?_eq_none_iff {ticket : Ticket} :
    s.answer? ticket = none ↔ ticket ∉ s.settled.map (·.1) := by
  unfold answer?
  rw [Option.map_eq_none_iff, List.find?_eq_none, List.mem_map]
  constructor
  · rintro h ⟨a, ha, rfl⟩
    exact h a ha (decide_eq_true rfl)
  · intro h a ha heq
    exact h ⟨a, ha, of_decide_eq_true heq⟩

theorem mem_of_answer? {ticket : Ticket} {answer : Except Node.Error Receipt}
    (h : s.answer? ticket = some answer) : (ticket, answer) ∈ s.settled := by
  obtain ⟨a, hfind, rfl⟩ := Option.map_eq_some_iff.1 h
  obtain rfl : a.1 = ticket := by simpa using List.find?_some hfind
  exact List.mem_of_find?_eq_some hfind

theorem answer?_of_mem (once : (s.settled.map (·.1)).Nodup)
    {a : Ticket × Except Node.Error Receipt} (ha : a ∈ s.settled) :
    s.answer? a.1 = some a.2 := by
  cases hanswer : s.answer? a.1 with
  | none => exact absurd (List.mem_map_of_mem ha) (answer?_eq_none_iff.1 hanswer)
  | some answer =>
    have hsame := List.inj_on_of_nodup_map once (mem_of_answer? hanswer) ha rfl
    rw [← hsame]

/-! ## Answering someone -/

theorem settle_watchers (tx : TxHash) (reply : Except Node.Error Receipt) (s : State) :
    (s.settle tx reply).watchers = s.watchers.filter (·.1 ≠ tx) := by
  unfold settle
  split
  · next hnone =>
    refine (List.filter_eq_self.2 ?_).symm
    intro w hw
    simpa using List.find?_eq_none.1 hnone w hw
  · rfl

/-- No one waits for the transaction, or one of those who do is told. -/
theorem settle_cases (tx : TxHash) (reply : Except Node.Error Receipt) (s : State) :
    (∀ w ∈ s.watchers, w.1 ≠ tx) ∧ (s.settle tx reply).settled = s.settled ∨
    ∃ ticket, (tx, ticket) ∈ s.watchers ∧
      (s.settle tx reply).settled = s.settled ++ [(ticket, reply)] := by
  unfold settle
  split
  · next hnone =>
    refine .inl ⟨?_, rfl⟩
    intro w hw
    simpa using List.find?_eq_none.1 hnone w hw
  · next other ticket hsome =>
    obtain rfl : other = tx := by simpa using List.find?_some hsome
    exact .inr ⟨ticket, List.mem_of_find?_eq_some hsome, rfl⟩

/-! ## No one is forgotten -/

/-- No transaction is waited for twice, answers are receipts or that the ledger is closed, and the
holders of the tickets wait or have been told. -/
structure Minded (tickets : List Ticket) (s : State) : Prop where
  apart : (s.watchers.map (·.1)).Nodup
  honest : ∀ a ∈ s.settled, (∃ receipt, a.2 = .ok receipt) ∨ a.2 = .error .closed
  booked : ∀ ticket ∈ tickets, ticket ∈ s.watchers.map (·.2) ∨ ticket ∈ s.settled.map (·.1)

namespace Minded

variable {tickets : List Ticket}

theorem initial (r : Rules) : Minded [] (State.initial r) := ⟨.nil, nofun, nofun⟩

theorem congr (h : Minded tickets s) (hwatchers : t.watchers = s.watchers)
    (hsettled : t.settled = s.settled) : Minded tickets t := by
  constructor
  · rw [hwatchers]
    exact h.apart
  · rw [hsettled]
    exact h.honest
  · rw [hwatchers, hsettled]
    exact h.booked

/-- Who no longer waits has been told. -/
theorem settle (h : Minded tickets s) (tx : TxHash) {reply : Except Node.Error Receipt}
    (hreply : (∃ receipt, reply = .ok receipt) ∨ reply = .error .closed) :
    Minded tickets (s.settle tx reply) := by
  refine ⟨?_, ?_, ?_⟩
  · rw [settle_watchers]
    exact h.apart.sublist (List.filter_sublist.map _)
  · intro a ha
    rcases settle_cases tx reply s with ⟨-, hsettled⟩ | ⟨ticket, -, hsettled⟩
    · rw [hsettled] at ha
      exact h.honest a ha
    · rw [hsettled] at ha
      rcases List.mem_append.1 ha with ha | ha
      · exact h.honest a ha
      · rw [List.mem_singleton.1 ha]
        exact hreply
  · intro ticket hticket
    have hgrows := (settled_prefix_settle tx reply s).subset
    rcases h.booked ticket hticket with hwaits | htold
    · obtain ⟨w, hw, rfl⟩ := List.mem_map.1 hwaits
      by_cases hhash : w.1 = tx
      · rcases settle_cases tx reply s with ⟨hnone, -⟩ | ⟨other, hother, hsettled⟩
        · exact absurd hhash (hnone w hw)
        · have hsame := List.inj_on_of_nodup_map h.apart hw hother hhash
          rw [hsettled, hsame]
          exact .inr (by simp)
      · refine .inl (List.mem_map_of_mem ?_)
        rw [settle_watchers]
        exact List.mem_filter.2 ⟨hw, by simpa using hhash⟩
    · exact .inr (List.map_subset _ hgrows htold)

theorem watch (h : Minded tickets s) (tx : TxHash) :
    Minded (s.nextTicket :: tickets) (s.watch tx) := by
  have hturned : Minded tickets (s.settle tx (.error .closed)) := h.settle tx (.inr rfl)
  have hwatchers : (s.watch tx).watchers =
      (s.settle tx (.error .closed)).watchers ++ [(tx, s.nextTicket)] := rfl
  refine ⟨?_, hturned.honest, ?_⟩
  · rw [hwatchers, List.map_append]
    refine List.nodup_append.2 ⟨hturned.apart, List.pairwise_singleton _ _, ?_⟩
    rintro a ha b hb rfl
    obtain ⟨w, hw, rfl⟩ := List.mem_map.1 ha
    rw [settle_watchers] at hw
    have hne : w.1 ≠ tx := by simpa using (List.mem_filter.1 hw).2
    exact hne (List.mem_singleton.1 hb)
  · intro ticket hticket
    rw [hwatchers]
    rcases List.mem_cons.1 hticket with rfl | hticket
    · exact .inl (by simp)
    · refine (hturned.booked ticket hticket).imp ?_ id
      intro hwaits
      rw [List.map_append]
      exact List.mem_append_left _ hwaits

theorem foldl_record (h : Minded tickets s) (txs : List Rules.Executed) :
    Minded tickets (txs.foldl State.record s) := by
  induction txs generalizing s with
  | nil => exact h
  | cons tx rest ih =>
    let logged : State := { s with events := s.events ++ [⟨s.number, tx.hash, tx.event⟩] }
    have hlogged : Minded tickets logged := h.congr rfl rfl
    exact ih (hlogged.settle tx.hash (.inl ⟨_, rfl⟩))

theorem sealBlock (h : Minded tickets s) (r : Rules) : Minded tickets (s.sealBlock r) := by
  have hadvance : Minded tickets (s.advance r) := h.congr rfl rfl
  exact (hadvance.foldl_record _).congr (sealBlock_watchers r s) (sealBlock_settled r s)

theorem accept (h : Minded tickets s) (r : Rules) (x : Extrinsic) (watched : Bool) (call : Call)
    (placement : Placement) :
    Minded (if watched then s.nextTicket :: tickets else tickets)
      (s.accept r x watched call placement) := by
  have hwatchers := accept_watchers r s x watched call placement
  have hsettled := accept_settled r s x watched call placement
  cases watched with
  | false => exact h.congr hwatchers hsettled
  | true => exact (h.watch x.hash).congr hwatchers hsettled

theorem of_cons {ticket : Ticket} (h : Minded (ticket :: tickets) s) : Minded tickets s :=
  ⟨h.apart, h.honest, fun other hother => h.booked other (List.mem_cons_of_mem _ hother)⟩

theorem close (h : Minded tickets s) : Minded tickets s.close := by
  unfold State.close
  split
  · exact h
  · refine ⟨.nil, ?_, ?_⟩
    · intro a ha
      rcases List.mem_append.1 ha with ha | ha
      · exact h.honest a ha
      · obtain ⟨w, -, rfl⟩ := List.mem_map.1 ha
        exact .inr rfl
    · intro ticket hticket
      refine .inr ?_
      rw [List.map_append, List.map_map]
      exact List.mem_append.2 ((h.booked ticket hticket).symm.imp id id)

theorem step (h : Minded tickets s) (r : Rules) (op : Op) : Minded tickets (s.step r op) := by
  refine preserved_step ?_ (fun t _ h => h.sealBlock r) (fun t _ _ h => h.congr rfl rfl)
    (fun t h => h.close) h op
  intro t x watched call placement _ _ h
  have haccept := h.accept r x watched call placement
  cases watched with
  | false => exact haccept
  | true => exact haccept.of_cons

/-- Whoever is handed a ticket is minded from then on. -/
theorem serve (h : Minded [] s) {request : Node.Request} {ticket : Ticket} {next : State}
    (hserve : s.serve r request = (.waiting ticket, next)) :
    (∃ x, request = .submitAndWatch x) ∧ Minded [ticket] next := by
  cases request with
  | submitAndWatch x =>
    refine ⟨⟨x, rfl⟩, ?_⟩
    unfold State.serve at hserve
    rcases submit_cases r x true s with ⟨e, heq⟩ | ⟨call, placement, -, -, heq⟩
    · simp only [heq] at hserve
      cases hserve
    · simp only [heq] at hserve
      cases hserve
      have haccept := h.accept r x true call placement
      unfold State.sealIfInstant
      split
      · exact haccept.sealBlock r
      · exact haccept
  | _ => cases hserve

end Minded

/-- Those who were promised the receipts of transactions wait for the ones that are not logged, and have
been answered at most once. -/
structure Attending (promised : List (Extrinsic × Ticket)) (s : State) : Prop where
  registered : s.watchers =
    (promised.filter fun p => p.1.hash ∉ s.events.map (·.tx)).map fun p => (p.1.hash, p.2)
  hashes : (promised.map (·.1.hash)).Nodup
  tickets : (promised.map (·.2)).Nodup
  below : ∀ p ∈ promised, p.2 < s.nextTicket
  once : (s.settled.map (·.1)).Nodup
  settled : ∀ a ∈ s.settled, ∃ p ∈ promised, p.2 = a.1 ∧ p.1.hash ∈ s.events.map (·.tx)

namespace Attending

variable {promised : List (Extrinsic × Ticket)} {p : Extrinsic × Ticket}

theorem initial (r : Rules) : Attending [] (State.initial r) :=
  ⟨rfl, .nil, .nil, nofun, .nil, nofun⟩

theorem congr (h : Attending promised s) (hwatchers : t.watchers = s.watchers)
    (hsettled : t.settled = s.settled) (hticket : t.nextTicket = s.nextTicket)
    (hevents : t.events = s.events) : Attending promised t := by
  constructor
  · rw [hwatchers, hevents]
    exact h.registered
  · exact h.hashes
  · exact h.tickets
  · rw [hticket]
    exact h.below
  · rw [hsettled]
    exact h.once
  · rw [hsettled, hevents]
    exact h.settled

theorem mem_watchers (h : Attending promised s) {w : TxHash × Ticket} :
    w ∈ s.watchers ↔ ∃ p ∈ promised, p.1.hash ∉ s.events.map (·.tx) ∧ (p.1.hash, p.2) = w := by
  rw [h.registered]
  simp only [List.mem_map, List.mem_filter, decide_eq_true_eq, and_assoc]

/-- Whoever still waits has not been told anything. -/
theorem answer?_eq_none (h : Attending promised s) (hp : p ∈ promised)
    (hwaits : p.1.hash ∉ s.events.map (·.tx)) : s.answer? p.2 = none := by
  refine answer?_eq_none_iff.2 ?_
  intro hmem
  obtain ⟨a, ha, hticket⟩ := List.mem_map.1 hmem
  obtain ⟨q, hq, hsame, hlogged⟩ := h.settled a ha
  obtain rfl := List.inj_on_of_nodup_map h.tickets hq hp (hsame.trans hticket)
  exact hwaits hlogged

theorem answer?_nextTicket (h : Attending promised s) : s.answer? s.nextTicket = none := by
  refine answer?_eq_none_iff.2 ?_
  intro hmem
  obtain ⟨a, ha, hticket⟩ := List.mem_map.1 hmem
  obtain ⟨p, hp, hsame, -⟩ := h.settled a ha
  exact Nat.ne_of_lt (h.below p hp) (hsame.trans hticket)

/-- A promise of a receipt for a transaction that is new. -/
theorem watch (h : Attending promised s) {x : Extrinsic}
    (hnew : x.hash ∉ promised.map (·.1.hash)) (hlogged : x.hash ∉ s.events.map (·.tx)) :
    Attending (promised ++ [(x, s.nextTicket)]) (s.watch x.hash) := by
  have hnone : ∀ w ∈ s.watchers, w.1 ≠ x.hash := by
    intro w hw hsame
    obtain ⟨p, hp, -, rfl⟩ := h.mem_watchers.1 hw
    exact hnew (List.mem_map.2 ⟨p, hp, hsame⟩)
  have hturned : (s.settle x.hash (.error .closed)).settled = s.settled := by
    rcases settle_cases x.hash (.error .closed) s with ⟨-, hsettled⟩ | ⟨ticket, hticket, -⟩
    · exact hsettled
    · exact absurd rfl (hnone _ hticket)
  have hwatchers : (s.watch x.hash).watchers = s.watchers ++ [(x.hash, s.nextTicket)] := by
    show (s.settle x.hash _).watchers ++ _ = _
    rw [settle_watchers, List.filter_eq_self.2]
    intro w hw
    simpa using hnone w hw
  refine ⟨?_, ?_, ?_, ?_, ?_, ?_⟩
  · rw [hwatchers, h.registered, watch_events, List.filter_append, List.map_append]
    simp only [List.filter_cons, hlogged, not_false_eq_true, decide_true, if_true, List.filter_nil,
      List.map_cons, List.map_nil]
  · rw [List.map_append]
    refine List.nodup_append.2 ⟨h.hashes, List.pairwise_singleton _ _, ?_⟩
    rintro a ha b hb rfl
    rw [List.mem_singleton.1 hb] at ha
    exact hnew ha
  · rw [List.map_append]
    refine List.nodup_append.2 ⟨h.tickets, List.pairwise_singleton _ _, ?_⟩
    rintro a ha b hb rfl
    obtain ⟨p, hp, rfl⟩ := List.mem_map.1 ha
    exact Nat.ne_of_lt (h.below p hp) (List.mem_singleton.1 hb)
  · intro p hp
    show p.2 < s.nextTicket + 1
    rcases List.mem_append.1 hp with hp | hp
    · exact Nat.lt_succ_of_lt (h.below p hp)
    · rw [List.mem_singleton.1 hp]
      exact Nat.lt_succ_self _
  · show ((s.settle x.hash _).settled.map _).Nodup
    rw [hturned]
    exact h.once
  · intro a ha
    replace ha : a ∈ (s.settle x.hash (.error .closed)).settled := ha
    rw [hturned] at ha
    obtain ⟨p, hp, hsame, hdone⟩ := h.settled a ha
    rw [watch_events]
    exact ⟨p, List.mem_append_left _ hp, hsame, hdone⟩

/-- Logging a transaction answers whoever waits for it. -/
theorem record (h : Attending promised s) (tx : Rules.Executed) :
    Attending promised (s.record tx) := by
  let logged : State := { s with events := s.events ++ [⟨s.number, tx.hash, tx.event⟩] }
  let receipt : Receipt := ⟨tx.hash, s.head, s.number, Rules.outcomeOf tx.event⟩
  have hrecord : s.record tx = logged.settle tx.hash (.ok receipt) := rfl
  have hevents : (s.record tx).events.map (·.tx) = s.events.map (·.tx) ++ [tx.hash] := by
    rw [hrecord, settle_events, List.map_append]
    rfl
  refine ⟨?_, h.hashes, h.tickets, ?_, ?_, ?_⟩
  · rw [hevents, hrecord, settle_watchers]
    show s.watchers.filter _ = _
    rw [h.registered, List.filter_map, List.filter_filter]
    congr 1
    refine List.filter_congr ?_
    intro p _
    simp [and_comm]
  · rw [hrecord, settle_nextTicket]
    exact h.below
  · rcases settle_cases tx.hash (.ok receipt) logged with ⟨-, hsettled⟩ | ⟨ticket, hwaits, hsettled⟩
    · rw [hrecord, hsettled]
      exact h.once
    · -- Who waits has not been told anything yet.
      obtain ⟨p, hp, hopen, heq⟩ := h.mem_watchers.1 hwaits
      have hnone := answer?_eq_none_iff.1 (h.answer?_eq_none hp hopen)
      rw [(Prod.mk.inj heq).2] at hnone
      rw [hrecord, hsettled, List.map_append]
      refine List.nodup_append.2 ⟨h.once, List.pairwise_singleton _ _, ?_⟩
      rintro a ha b hb rfl
      rw [List.mem_singleton.1 hb] at ha
      exact hnone ha
  · intro a ha
    rw [hevents]
    rcases settle_cases tx.hash (.ok receipt) logged with ⟨-, hsettled⟩ | ⟨ticket, hwaits, hsettled⟩
    · rw [hrecord, hsettled] at ha
      obtain ⟨p, hp, hsame, hdone⟩ := h.settled a ha
      exact ⟨p, hp, hsame, List.mem_append_left _ hdone⟩
    · rw [hrecord, hsettled] at ha
      rcases List.mem_append.1 ha with ha | ha
      · obtain ⟨p, hp, hsame, hdone⟩ := h.settled a ha
        exact ⟨p, hp, hsame, List.mem_append_left _ hdone⟩
      · obtain ⟨p, hp, -, heq⟩ := h.mem_watchers.1 hwaits
        obtain ⟨hhash, hsame⟩ := Prod.mk.inj heq
        rw [List.mem_singleton.1 ha]
        exact ⟨p, hp, hsame, List.mem_append_right _ (List.mem_singleton.2 hhash)⟩

theorem foldl_record (h : Attending promised s) (txs : List Rules.Executed) :
    Attending promised (txs.foldl State.record s) := by
  induction txs generalizing s with
  | nil => exact h
  | cons tx rest ih => exact ih (h.record tx)

/-- What whoever waits is told of the transaction. -/
theorem mem_settled_record (h : Attending promised s) (hp : p ∈ promised)
    (hopen : p.1.hash ∉ s.events.map (·.tx)) {tx : Rules.Executed} (htx : tx.hash = p.1.hash) :
    (p.2, .ok ⟨p.1.hash, s.head, s.number, Rules.outcomeOf tx.event⟩) ∈ (s.record tx).settled := by
  let logged : State := { s with events := s.events ++ [⟨s.number, tx.hash, tx.event⟩] }
  let receipt : Receipt := ⟨tx.hash, s.head, s.number, Rules.outcomeOf tx.event⟩
  have hwaits : (p.1.hash, p.2) ∈ logged.watchers := h.mem_watchers.2 ⟨p, hp, hopen, rfl⟩
  show _ ∈ (logged.settle tx.hash (.ok receipt)).settled
  rcases settle_cases tx.hash (.ok receipt) logged with ⟨hnone, -⟩ | ⟨ticket, hother, hsettled⟩
  · exact absurd htx.symm (hnone _ hwaits)
  · obtain ⟨q, hq, -, heq⟩ := h.mem_watchers.1 hother
    obtain ⟨hhash, rfl⟩ := Prod.mk.inj heq
    obtain rfl := List.inj_on_of_nodup_map h.hashes hq hp (hhash.trans htx)
    rw [hsettled]
    refine List.mem_append_right _ (List.mem_singleton.2 ?_)
    rw [← htx]

theorem mem_settled_foldl_record (h : Attending promised s) (hp : p ∈ promised)
    (hopen : p.1.hash ∉ s.events.map (·.tx)) {txs : List Rules.Executed}
    (hmem : p.1.hash ∈ txs.map (·.hash)) :
    ∃ tx ∈ txs, tx.hash = p.1.hash ∧
      (p.2, .ok ⟨p.1.hash, s.head, s.number, Rules.outcomeOf tx.event⟩) ∈
        (txs.foldl State.record s).settled := by
  induction txs generalizing s with
  | nil => cases hmem
  | cons tx rest ih =>
    rw [List.foldl_cons]
    by_cases hfirst : tx.hash = p.1.hash
    · have htold := h.mem_settled_record hp hopen hfirst
      exact ⟨tx, List.mem_cons_self, hfirst, (settled_prefix_foldl_record _ rest).subset htold⟩
    · have hevents : (s.record tx).events = s.events ++ [⟨s.number, tx.hash, tx.event⟩] :=
        settle_events ..
      have hhead : (s.record tx).head = s.head := settle_head ..
      have hnumber : (s.record tx).number = s.number := settle_number ..
      have hopen' : p.1.hash ∉ (s.record tx).events.map (·.tx) := by
        rw [hevents]
        simp only [List.map_append, List.map_cons, List.map_nil, List.mem_append,
          List.mem_singleton, not_or]
        exact ⟨hopen, Ne.symm hfirst⟩
      have hrest : p.1.hash ∈ rest.map (·.hash) := by
        rcases List.mem_cons.1 hmem with heq | hrest
        · exact absurd heq.symm hfirst
        · exact hrest
      obtain ⟨other, hother, hhash, htold⟩ := ih (h.record tx) hopen' hrest
      rw [hhead, hnumber] at htold
      exact ⟨other, List.mem_cons_of_mem _ hother, hhash, htold⟩

/-! ## Blocks -/

theorem withBlock (h : Attending promised s) (r : Rules) : Attending promised (s.withBlock r) := by
  have hadvance : Attending promised (s.advance r) := h.congr rfl rfl rfl rfl
  exact hadvance.foldl_record _

theorem sealBlock (h : Attending promised s) (r : Rules) : Attending promised (s.sealBlock r) := by
  refine (h.withBlock r).congr ?_ ?_ ?_ ?_
  · rw [sealBlock_watchers]
  · rw [sealBlock_settled]
  · rw [sealBlock_nextTicket, withBlock_nextTicket]
  · rw [sealBlock_events, withBlock_events]

/-- Whoever waits for a transaction that is ready is told of the next block. -/
theorem answer?_sealBlock (h : Attending promised s) (hp : p ∈ promised)
    (hopen : p.1.hash ∉ s.events.map (·.tx)) (hready : p.1.hash ∈ s.ready.map (·.hash)) :
    ∃ event, ⟨(s.sealBlock r).number, p.1.hash, event⟩ ∈ (s.sealBlock r).events ∧
      (s.sealBlock r).answer? p.2 = some (.ok ⟨p.1.hash, (s.sealBlock r).head,
        (s.sealBlock r).number, Rules.outcomeOf event⟩) := by
  have hadvance : Attending promised (s.advance r) := h.congr rfl rfl rfl rfl
  have hmem : p.1.hash ∈ (r.executeAll s.best s.ready).2.map (·.hash) := by
    rw [r.executeAll_hash]
    exact hready
  obtain ⟨tx, htx, hhash, htold⟩ := hadvance.mem_settled_foldl_record hp hopen hmem
  refine ⟨tx.event, ?_, ?_⟩
  · rw [sealBlock_events, sealBlock_number, ← hhash]
    exact List.mem_append_right _ (List.mem_map.2 ⟨tx, htx, rfl⟩)
  · rw [sealBlock_head, withBlock_head, sealBlock_number]
    refine answer?_of_mem (h.sealBlock r).once (a := (p.2, _)) ?_
    rw [sealBlock_settled]
    exact htold

/-! ## Closing -/

theorem close_settled (hopen : s.closed = false) :
    s.close.settled = s.settled ++ s.watchers.map fun w => (w.2, .error .closed) := by
  unfold State.close
  rw [hopen, if_neg Bool.false_ne_true]

/-- Whoever still waits when the ledger closes is turned away, and no one is told anything twice. -/
theorem close (h : Attending promised s) (hopen : s.closed = false) :
    (s.close.settled.map (·.1)).Nodup ∧
      ∀ w ∈ s.watchers, s.close.answer? w.2 = some (.error .closed) := by
  have honce : (s.close.settled.map (·.1)).Nodup := by
    rw [close_settled hopen, List.map_append, List.map_map]
    refine List.nodup_append.2 ⟨h.once, ?_, ?_⟩
    · have htickets : (s.watchers.map (·.2)).Nodup := by
        rw [h.registered, List.map_map]
        exact h.tickets.sublist (List.filter_sublist.map _)
      exact htickets
    · rintro a ha b hb rfl
      obtain ⟨w, hw, rfl⟩ := List.mem_map.1 hb
      obtain ⟨p, hp, hwaits, rfl⟩ := h.mem_watchers.1 hw
      exact answer?_eq_none_iff.1 (h.answer?_eq_none hp hwaits) ha
  refine ⟨honce, ?_⟩
  intro w hw
  refine answer?_of_mem honce (a := (w.2, .error .closed)) ?_
  rw [close_settled hopen]
  exact List.mem_append_right _ (List.mem_map_of_mem hw)

end Attending

end MetaLedger.Ledger.State
