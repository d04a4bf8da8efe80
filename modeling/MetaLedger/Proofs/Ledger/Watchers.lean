import Mathlib.Data.List.Induction
import MetaLedger.Proofs.Ledger.Answers

/-!
# Every watcher is answered once

Whoever hands in a transaction to watch is handed a ticket if the transaction is accepted (`promises`).
From then on there are three things that can become of the ticket (`Fate`): it waits, as long as its
transaction is in the pool; it is answered by the block that its transaction is in, with what the log
says of it; or it is turned away when the ledger closes. None of them is undone, and nobody else is told
anything (`run_attended`).

The table of those who wait is kept by hashes, and transactions are found in it by these, so all this
supposes that no two of the transactions that are handed in have one hash. That the table does not lag
behind the queues is owed to the log: an accepted transaction is in the pool if and only if it has not
been logged (`Accounted.mem_pool_iff`).
-/

namespace MetaLedger.Ledger

namespace Op

def extrinsic? : Op → Option Extrinsic
  | submit x _ => some x
  | _ => none

/-- Someone waits for the receipt of what is handed in. -/
def isWatched : Op → Bool
  | submit _ watched => watched
  | _ => false

/-- The transactions that are handed in. -/
def extrinsics (ops : List Op) : List Extrinsic := ops.filterMap extrinsic?

/-- No two of the transactions that are handed in have one hash. -/
def HashesApart (ops : List Op) : Prop :=
  ∀ x ∈ extrinsics ops, ∀ y ∈ extrinsics ops, x.hash = y.hash → x = y

instance (ops : List Op) : Decidable (HashesApart ops) :=
  inferInstanceAs (Decidable (∀ x ∈ extrinsics ops, ∀ y ∈ extrinsics ops, x.hash = y.hash → x = y))

theorem extrinsics_append (first second : List Op) :
    extrinsics (first ++ second) = extrinsics first ++ extrinsics second := List.filterMap_append

theorem HashesApart.of_prefix {before ops : List Op} (h : HashesApart ops) (hbefore : before <+: ops) :
    HashesApart before := by
  have hsubset : extrinsics before ⊆ extrinsics ops := (hbefore.sublist.filterMap _).subset
  intro x hx y hy
  exact h x (hsubset hx) y (hsubset hy)

end Op

/-! ## Promises -/

namespace State

variable {r : Rules} {s : State}

/-- Who is promised the receipt of which transaction by an operation. -/
def promises (r : Rules) (s : State) : Op → List (Extrinsic × Ticket)
  | .submit x true =>
    match (s.serve r (.submitAndWatch x)).1 with
    | .waiting ticket => [(x, ticket)]
    | .reply _ => []
  | _ => []

/-- The promises of a run, in the order they are made. -/
def promised (r : Rules) (s : State) : List Op → List (Extrinsic × Ticket)
  | [] => []
  | op :: ops => s.promises r op ++ (s.step r op).promised r ops

theorem promised_append (r : Rules) (s : State) (before later : List Op) :
    s.promised r (before ++ later) = s.promised r before ++ (s.run r before).promised r later := by
  induction before generalizing s with
  | nil => rfl
  | cons op ops ih =>
    show s.promises r op ++ (s.step r op).promised r (ops ++ later) = _
    rw [ih, ← List.append_assoc]
    rfl

/-- A promise is made for each transaction that is accepted to be watched. -/
theorem promises_eq (r : Rules) (s : State) (op : Op) :
    s.promises r op =
      if op.isWatched then (s.accepts r op).map fun x => (x, s.nextTicket) else [] := by
  cases op with
  | submit x watched =>
    cases watched with
    | false => rfl
    | true =>
      unfold promises accepts serve
      cases hreply : (s.submit r x true).1 <;> simp [hreply, Op.isWatched]
  | block | fund | close => rfl

theorem accepts_eq_of_mem {op : Op} {x : Extrinsic} (hx : x ∈ s.accepts r op) :
    s.accepts r op = [x] := by
  have heffect := effect_step r s op
  generalize s.accepts r op = accepted at *
  generalize s.executes r op = executed at *
  generalize s.step r op = next at *
  cases heffect with
  | nothing | sealed | funded | closed => cases hx
  | queued | included => rw [List.mem_singleton.1 hx]

theorem promised_of_closed (hclosed : s.closed = true) (ops : List Op) : s.promised r ops = [] := by
  induction ops generalizing s with
  | nil => rfl
  | cons op ops ih =>
    obtain ⟨haccepts, -, hstep⟩ := (effect_step r s op).of_closed hclosed
    have hnext : (s.step r op).closed = true := by
      rcases hstep with heq | ⟨account, free, heq⟩ <;> rw [heq] <;> exact hclosed
    show s.promises r op ++ (s.step r op).promised r ops = []
    rw [promises_eq, haccepts, ih hnext]
    simp

theorem serve_refused {x : Extrinsic} {e : Node.Error}
    (h : (s.serve r (.submitAndWatch x)).1 = .reply (.error e)) :
    (s.serve r (.submitAndWatch x)).2 = s := by
  unfold serve at h ⊢
  cases hreply : (s.submit r x true).1 with
  | ok hash =>
    simp only [hreply] at h
    cases h
  | error e =>
    simp only [hreply]
    exact submit_refused hreply

end State

namespace Chronicle

variable {r : Rules} {h : Chronicle} {promised : List (Extrinsic × Ticket)}

/-- What is accepted has been handed in. -/
theorem accepted_run_subset (r : Rules) (h : Chronicle) (ops : List Op) :
    (h.run r ops).accepted ⊆ h.accepted ++ Op.extrinsics ops := by
  induction ops generalizing h with
  | nil => exact List.subset_append_left _ _
  | cons op ops ih =>
    have hstep : h.state.accepts r op ⊆ Op.extrinsics [op] := by
      cases op with
      | submit x watched =>
        have hsubmission : Op.extrinsics [.submit x watched] = [x] := rfl
        rw [hsubmission]
        simp only [State.accepts]
        split
        · exact List.Subset.refl _
        · exact List.nil_subset _
      | block | fund | close => exact List.nil_subset _
    have hcons : Op.extrinsics (op :: ops) = Op.extrinsics [op] ++ Op.extrinsics ops :=
      Op.extrinsics_append [op] ops
    intro x hx
    have hmem := ih (h.step r op) hx
    rw [hcons]
    simp only [step, List.mem_append] at hmem ⊢
    rcases hmem with (hx | hx) | hx
    · exact .inl hx
    · exact .inr (.inl (hstep hx))
    · exact .inr (.inr hx)

/-- The transactions that were accepted are told apart by their hashes. -/
def Distinct (h : Chronicle) : Prop :=
  ∀ x ∈ h.accepted, ∀ y ∈ h.accepted, x.hash = y.hash → x = y

section Accounted

variable (haccounted : Accounted r h) (hdistinct : h.Distinct)

include haccounted in
theorem Accounted.mem_accepted {e : PoolEntry}
    (he : e ∈ h.executed ++ (h.state.ready ++ h.state.future)) : e.extrinsic ∈ h.accepted := by
  rw [← List.append_assoc] at he
  exact haccounted.places.mem_iff.1 (List.mem_map_of_mem he)

include haccounted hdistinct

/-- An accepted transaction whose hash is that of an entry is the entry's. -/
theorem Accounted.extrinsic_eq {x : Extrinsic} (hx : x ∈ h.accepted) {e : PoolEntry}
    (he : e ∈ h.executed ++ (h.state.ready ++ h.state.future)) (hhash : e.hash = x.hash) :
    e.extrinsic = x := by
  refine hdistinct _ (haccounted.mem_accepted he) x hx ?_
  rw [← haccounted.hash_eq e (by rwa [List.append_assoc]), hhash]

/-- An accepted transaction is in the pool until it is logged. -/
theorem Accounted.mem_pool_iff {x : Extrinsic} (hx : x ∈ h.accepted) :
    x ∈ (h.state.ready ++ h.state.future).map (·.extrinsic) ↔
      x.hash ∉ h.state.events.map (·.tx) := by
  rw [haccounted.events]
  constructor
  · intro hpool hlogged
    obtain ⟨e, he, rfl⟩ := List.mem_map.1 hpool
    obtain ⟨f, hf, hhash⟩ := List.mem_map.1 hlogged
    have hsame := haccounted.extrinsic_eq hdistinct hx (List.mem_append_left _ hf) hhash
    have hapart := haccounted.apart
    rw [List.append_assoc] at hapart
    refine (List.pairwise_append.1 hapart).2.2 f hf e he ⟨?_, ?_⟩
    · exact congrArg Extrinsic.signer hsame
    · exact congrArg Extrinsic.nonce hsame
  · intro hwaits
    have hplaced := haccounted.places.mem_iff.2 hx
    rw [List.append_assoc, List.map_append] at hplaced
    rcases List.mem_append.1 hplaced with hdone | hpool
    · obtain ⟨f, hf, rfl⟩ := List.mem_map.1 hdone
      refine absurd (List.mem_map.2 ⟨f, hf, ?_⟩) hwaits
      exact haccounted.hash_eq f (List.mem_append_left _ (List.mem_append_left _ hf))
    · exact hpool

/-- Each transaction is logged once. -/
theorem Accounted.events_nodup : (h.state.events.map (·.tx)).Nodup := by
  have hexecuted : h.executed.Pairwise fun e f => ¬(e.signer = f.signer ∧ e.nonce = f.nonce) := by
    have hapart := haccounted.apart
    rw [List.append_assoc] at hapart
    exact (List.pairwise_append.1 hapart).1
  rw [haccounted.events]
  refine List.pairwise_map.2 (hexecuted.imp_of_mem ?_)
  intro e f he hf hapart hhash
  have hsame := haccounted.extrinsic_eq hdistinct
    (haccounted.mem_accepted (List.mem_append_left _ hf)) (List.mem_append_left _ he)
    (hhash.trans (haccounted.hash_eq f (List.mem_append_left _ (List.mem_append_left _ hf))))
  exact hapart ⟨congrArg Extrinsic.signer hsame, congrArg Extrinsic.nonce hsame⟩

end Accounted

/-! ## One operation -/

/-- A transaction that is accepted is new to those who wait. -/
theorem attending_accept (hattending : State.Attending promised h.state) {x : Extrinsic}
    (hnew : x.hash ∉ promised.map (·.1.hash)) (hlogged : x.hash ∉ h.state.events.map (·.tx))
    (watched : Bool) (call : Call) (placement : Placement) :
    State.Attending (promised ++ if watched then [(x, h.state.nextTicket)] else [])
      (h.state.accept r x watched call placement) := by
  cases watched with
  | false =>
    simp only [Bool.false_eq_true, if_false, List.append_nil]
    refine hattending.congr ?_ ?_ ?_ (State.accept_events ..)
    · exact State.accept_watchers ..
    · exact State.accept_settled ..
    · exact State.accept_nextTicket ..
  | true =>
    refine (hattending.watch hnew hlogged).congr ?_ ?_ ?_ ?_
    · exact State.accept_watchers ..
    · exact State.accept_settled ..
    · exact State.accept_nextTicket ..
    · rw [State.accept_events, State.watch_events]

/-- What a ticket for a transaction of the head block is told: what the log says of it. -/
structure Certifies (s : State) (x : Extrinsic) (receipt : Receipt) : Prop where
  tx : receipt.tx = x.hash
  block : receipt.block = s.head
  number : receipt.number = s.number
  outcome : ∃ event, ⟨s.number, x.hash, event⟩ ∈ s.events ∧
    (∀ y ∈ s.events, y.tx = x.hash → y = ⟨s.number, x.hash, event⟩) ∧
    (receipt.outcome = .success ↔ ∀ reason, event ≠ .failed reason) ∧
    ∀ reason, event = .failed reason → receipt.outcome = .failed reason

theorem certifies_outcomeOf {s : State} {x : Extrinsic} {event : Event}
    (honce : (s.events.map (·.tx)).Nodup) (hlogged : ⟨s.number, x.hash, event⟩ ∈ s.events) :
    Certifies s x ⟨x.hash, s.head, s.number, Rules.outcomeOf event⟩ := by
  refine ⟨rfl, rfl, rfl, event, hlogged, ?_, ?_, ?_⟩
  · intro y hy hsame
    exact List.inj_on_of_nodup_map honce hy hlogged hsame
  · cases event <;> simp [Rules.outcomeOf]
  · rintro reason rfl
    rfl

/-- A transaction that an operation accepts has a hash of its own. -/
theorem Accounted.hash_new {op : Op} (haccounted : Accounted r h)
    (hnext : Accounted r (h.step r op)) (hdistinct : (h.step r op).Distinct) {x : Extrinsic}
    (haccepts : h.state.accepts r op = [x]) :
    (∀ y ∈ h.accepted, y.hash ≠ x.hash) ∧ x.hash ∉ h.state.events.map (·.tx) := by
  have haccepted : (h.step r op).accepted = h.accepted ++ [x] := by
    show h.accepted ++ h.state.accepts r op = _
    rw [haccepts]
  have hfresh : x ∉ h.accepted := by
    have hnodup := hnext.once
    rw [haccepted] at hnodup
    intro hx
    exact (List.nodup_append.1 hnodup).2.2 x hx x (List.mem_singleton_self x) rfl
  have hunlike : ∀ y ∈ h.accepted, y.hash ≠ x.hash := by
    unfold Distinct at hdistinct
    rw [haccepted] at hdistinct
    intro y hy hhash
    have hx : x ∈ h.accepted ++ [x] := List.mem_append_right _ (List.mem_singleton_self x)
    have hsame := hdistinct y (List.mem_append_left _ hy) x hx hhash
    exact hfresh (hsame ▸ hy)
  refine ⟨hunlike, ?_⟩
  intro hlogged
  rw [haccounted.events] at hlogged
  obtain ⟨e, he, hhash⟩ := List.mem_map.1 hlogged
  refine hunlike e.extrinsic (haccounted.mem_accepted (List.mem_append_left _ he)) ?_
  rw [← haccounted.hash_eq e (List.mem_append_left _ (List.mem_append_left _ he)), hhash]

/-- What an operation does to those who wait, unless it closes the ledger. -/
structure Attends (r : Rules) (promised : List (Extrinsic × Ticket)) (s : State)
    (executed : List PoolEntry) (t : State) : Prop where
  attending : State.Attending promised t
  told : ∀ p ∈ promised, p.1.hash ∉ s.events.map (·.tx) → p.1.hash ∈ executed.map (·.hash) →
    ∃ receipt, Certifies t p.1 receipt ∧ t.answer? p.2 = some (.ok receipt)

theorem attends_sealBlock {s : State} (hattending : State.Attending promised s)
    (honce : ((s.sealBlock r).events.map (·.tx)).Nodup) :
    Attends r promised s s.ready (s.sealBlock r) := by
  refine ⟨hattending.sealBlock r, ?_⟩
  intro p hp hopen hready
  obtain ⟨event, hevent, hanswer⟩ := hattending.answer?_sealBlock (r := r) hp hopen hready
  exact ⟨_, certifies_outcomeOf honce hevent, hanswer⟩

theorem attends_step {op : Op} (hattending : State.Attending promised h.state)
    (hpromised : ∀ p ∈ promised, p.1 ∈ h.accepted) (haccounted : Accounted r h)
    (hnext : Accounted r (h.step r op)) (hdistinct : (h.step r op).Distinct) (hop : op ≠ .close) :
    Attends r (promised ++ h.state.promises r op) h.state (h.state.executes r op)
      (h.state.step r op) := by
  have heffect := State.effect_step r h.state op
  have honce : ((h.state.step r op).events.map (·.tx)).Nodup := hnext.events_nodup hdistinct
  have hnew : ∀ x, h.state.accepts r op = [x] →
      x.hash ∉ promised.map (·.1.hash) ∧ x.hash ∉ h.state.events.map (·.tx) := by
    intro x haccepts
    obtain ⟨hunlike, hlogged⟩ := haccounted.hash_new hnext hdistinct haccepts
    refine ⟨?_, hlogged⟩
    intro hmem
    obtain ⟨p, hp, hhash⟩ := List.mem_map.1 hmem
    exact hunlike p.1 (hpromised p hp) hhash
  rw [State.promises_eq]
  generalize h.state.executes r op = executed at *
  generalize h.state.accepts r op = accepted at *
  generalize h.state.step r op = next at *
  cases heffect with
  | nothing =>
    simp only [List.map_nil, ite_self, List.append_nil]
    exact ⟨hattending, nofun⟩
  | queued =>
    obtain ⟨hwaits, hlogged⟩ := hnew _ rfl
    exact ⟨attending_accept hattending hwaits hlogged _ _ _, nofun⟩
  | included =>
    obtain ⟨hwaits, hlogged⟩ := hnew _ rfl
    have hsealed := attends_sealBlock (attending_accept hattending hwaits hlogged _ _ _) honce
    refine ⟨hsealed.attending, ?_⟩
    intro p hp hopen
    exact hsealed.told p hp (by rwa [State.accept_events])
  | sealed =>
    simp only [Op.isWatched, Bool.false_eq_true, if_false, List.append_nil]
    exact attends_sealBlock hattending honce
  | funded =>
    simp only [Op.isWatched, Bool.false_eq_true, if_false, List.append_nil]
    exact ⟨hattending.congr rfl rfl rfl rfl, nofun⟩
  | closed => exact absurd rfl hop

end Chronicle

/-! ## Every run -/

/-- The state that a list of operations leads to from the genesis block. -/
abbrev Rules.reach (r : Rules) (ops : List Op) : State := (State.initial r).run r ops

/-- The promises that a list of operations leads to. -/
abbrev Rules.promised (r : Rules) (ops : List Op) : List (Extrinsic × Ticket) :=
  (State.initial r).promised r ops

/-- The transaction is among the ready ones or waits for an earlier nonce. -/
def State.Holds (s : State) (x : Extrinsic) : Prop := x ∈ (s.ready ++ s.future).map (·.extrinsic)

instance (s : State) (x : Extrinsic) : Decidable (s.Holds x) :=
  inferInstanceAs (Decidable (x ∈ (s.ready ++ s.future).map (·.extrinsic)))

/-- What has become of the ticket for a transaction. -/
inductive Fate (r : Rules) (ops : List Op) (x : Extrinsic) (ticket : Ticket) : Prop where
  /-- The transaction is in the pool, and nothing has been told. -/
  | waiting : (r.reach ops).Holds x → (r.reach ops).answer? ticket = none → Fate r ops x ticket
  /-- The operation that executed the transaction has told what came of it; nothing was told before,
  and nothing else is told since. -/
  | included {before : List Op} {op : Op} {later : List Op} {receipt : Receipt} :
      ops = before ++ op :: later → (r.reach before).answer? ticket = none →
      x ∈ ((r.reach before).executes r op).map (·.extrinsic) →
      Chronicle.Certifies (r.reach (before ++ [op])) x receipt →
      (r.reach (before ++ [op])).answer? ticket = some (.ok receipt) →
      (r.reach ops).answer? ticket = some (.ok receipt) → Fate r ops x ticket
  /-- The transaction was in the pool when the ledger was closed, and nothing else has been told. -/
  | turnedAway {before later : List Op} :
      ops = before ++ .close :: later → (r.reach before).Holds x →
      (r.reach before).answer? ticket = none →
      (r.reach (before ++ [.close])).answer? ticket = some (.error .closed) →
      (r.reach ops).answer? ticket = some (.error .closed) → Fate r ops x ticket

/-- What holds of those who wait in every run. -/
structure Attended (r : Rules) (ops : List Op) : Prop where
  /-- They are those who were promised the receipt of a transaction that is in the pool. -/
  registered : (r.reach ops).watchers =
    ((r.promised ops).filter fun p => (r.reach ops).Holds p.1).map fun p => (p.1.hash, p.2)
  tickets : ((r.promised ops).map (·.2)).Nodup
  fate : ∀ p ∈ r.promised ops, Fate r ops p.1 p.2
  /-- No one is told anything twice, and no one who was not promised it. -/
  once : ((r.reach ops).settled.map (·.1)).Nodup
  only : ∀ answer ∈ (r.reach ops).settled, answer.1 ∈ (r.promised ops).map (·.2)
  /-- A transaction that is refused is not waited for. -/
  refused : ∀ x e, ((r.reach ops).serve r (.submitAndWatch x)).1 = .reply (.error e) →
    ((r.reach ops).serve r (.submitAndWatch x)).2 = r.reach ops
  /-- Closing turns away everyone who waits. -/
  closing : (r.reach ops).close.watchers = [] ∧
    ∀ w ∈ (r.reach ops).watchers, (r.reach ops).close.answer? w.2 = some (.error .closed)

section Runs

variable {r : Rules} {ops : List Op} {op : Op} {x : Extrinsic} {ticket : Ticket}

theorem Rules.reach_append (r : Rules) (before later : List Op) :
    r.reach (before ++ later) = (r.reach before).run r later := State.run_append r _ before later

theorem Rules.reach_concat (r : Rules) (ops : List Op) (op : Op) :
    r.reach (ops ++ [op]) = (r.reach ops).step r op := r.reach_append ops [op]

theorem Rules.promised_concat (r : Rules) (ops : List Op) (op : Op) :
    r.promised (ops ++ [op]) = r.promised ops ++ (r.reach ops).promises r op := by
  unfold Rules.promised
  rw [State.promised_append, State.promised, State.promised, List.append_nil]

/-- What has been told stays told. -/
theorem Fate.append_of_answered (h : Fate r ops x ticket)
    (hanswered : (r.reach ops).answer? ticket ≠ none) (more : List Op) :
    Fate r (ops ++ more) x ticket := by
  have hkept : ∀ answer, (r.reach ops).answer? ticket = some answer →
      (r.reach (ops ++ more)).answer? ticket = some answer := by
    intro answer h
    rw [Rules.reach_append]
    exact State.answer?_of_prefix (State.settled_prefix_run r _ more) h
  cases h with
  | waiting _ hnone => exact absurd hnone hanswered
  | @included before op later _ hsplit hnone hexecuted hcertifies htold hstill =>
    have hlater : ops ++ more = before ++ op :: (later ++ more) := by
      rw [hsplit, List.append_assoc, List.cons_append]
    exact .included hlater hnone hexecuted hcertifies htold (hkept _ hstill)
  | @turnedAway before later hsplit hpool hnone htold hstill =>
    have hlater : ops ++ more = before ++ .close :: (later ++ more) := by
      rw [hsplit, List.append_assoc, List.cons_append]
    exact .turnedAway hlater hpool hnone htold (hkept _ hstill)

/-! ### Before the ledger is closed -/

abbrev Rules.chronicle (r : Rules) (ops : List Op) : Chronicle := (Chronicle.initial r).run r ops

theorem Rules.chronicle_state (r : Rules) (ops : List Op) :
    (r.chronicle ops).state = r.reach ops := Chronicle.run_state r _ ops

theorem Rules.chronicle_concat (r : Rules) (ops : List Op) (op : Op) :
    r.chronicle (ops ++ [op]) = (r.chronicle ops).step r op := by
  unfold Rules.chronicle Chronicle.run
  rw [List.foldl_append]
  rfl

/-- All that was accepted is accounted for, and told apart by hashes. -/
structure Clear (r : Rules) (ops : List Op) : Prop where
  accounted : Chronicle.Accounted r (r.chronicle ops)
  distinct : (r.chronicle ops).Distinct

theorem clear_of_open (separate : r.keys.Separate) (hopen : Op.close ∉ ops) (few : Op.Few ops)
    (hapart : Op.HashesApart ops) : Clear r ops := by
  have hfew : 0 + Op.submissions ops < UInt32.size - 1 := by
    rw [Nat.zero_add]
    exact few
  have hpool : State.Steady r (r.reach ops) _ := (State.Steady.initial r).run separate ops hfew
  have hkept : Chronicle.Kept r (r.chronicle ops).state (r.chronicle ops).accepted
      (r.chronicle ops).executed :=
    Chronicle.kept_run separate (Chronicle.Kept.initial r) (State.Steady.initial r) ops hopen hfew
  rw [← r.chronicle_state ops] at hpool
  have hsubset : (r.chronicle ops).accepted ⊆ Op.extrinsics ops :=
    Chronicle.accepted_run_subset r (Chronicle.initial r) ops
  refine ⟨hkept.accounted hpool, ?_⟩
  intro x hx y hy
  exact hapart x (hsubset hx) y (hsubset hy)

theorem Clear.holds_iff (h : Clear r ops) (hx : x ∈ (r.chronicle ops).accepted) :
    (r.reach ops).Holds x ↔ x.hash ∉ (r.reach ops).events.map (·.tx) := by
  unfold State.Holds
  rw [← r.chronicle_state ops]
  exact h.accounted.mem_pool_iff h.distinct hx

section Next

variable (hnow : Clear r ops) (hnext : Clear r (ops ++ [op]))

include hnow hnext

/-- A promise is about a transaction that has not been logged, and nothing has been told yet. -/
theorem Clear.promises {p : Extrinsic × Ticket} (hp : p ∈ (r.reach ops).promises r op) :
    p.1 ∈ (r.chronicle (ops ++ [op])).accepted ∧ p.1.hash ∉ (r.reach ops).events.map (·.tx) ∧
      p.2 = (r.reach ops).nextTicket := by
  obtain ⟨haccounted, hdistinct⟩ := hnext
  rw [r.chronicle_concat] at haccounted hdistinct ⊢
  rw [← r.chronicle_state ops] at hp ⊢
  rw [State.promises_eq] at hp
  split at hp
  · obtain ⟨x, hx, rfl⟩ := List.mem_map.1 hp
    obtain ⟨-, hlogged⟩ :=
      hnow.accounted.hash_new haccounted hdistinct (State.accepts_eq_of_mem hx)
    exact ⟨List.mem_append_right _ hx, hlogged, rfl⟩
  · cases hp

theorem Clear.attends (hattending : State.Attending (r.promised ops) (r.reach ops))
    (hpromised : ∀ p ∈ r.promised ops, p.1 ∈ (r.chronicle ops).accepted) (hop : op ≠ .close) :
    Chronicle.Attends r (r.promised (ops ++ [op])) (r.reach ops) ((r.reach ops).executes r op)
      (r.reach (ops ++ [op])) := by
  obtain ⟨haccounted, hdistinct⟩ := hnext
  rw [r.chronicle_concat] at haccounted hdistinct
  rw [r.promised_concat, r.reach_concat]
  rw [← r.chronicle_state ops] at hattending ⊢
  exact Chronicle.attends_step hattending hpromised hnow.accounted haccounted hdistinct hop

/-- What is logged by an operation is what it executes. -/
theorem Clear.executes (hx : x ∈ (r.chronicle (ops ++ [op])).accepted)
    (hopen : x.hash ∉ (r.reach ops).events.map (·.tx))
    (hlogged : x.hash ∈ (r.reach (ops ++ [op])).events.map (·.tx)) :
    x ∈ ((r.reach ops).executes r op).map (·.extrinsic) ∧
      x.hash ∈ ((r.reach ops).executes r op).map (·.hash) := by
  have hexecuted : (r.chronicle (ops ++ [op])).executed =
      (r.chronicle ops).executed ++ (r.reach ops).executes r op := by
    rw [r.chronicle_concat, ← r.chronicle_state ops]
    rfl
  rw [← r.chronicle_state ops, hnow.accounted.events] at hopen
  rw [← r.chronicle_state, hnext.accounted.events, hexecuted, List.map_append] at hlogged
  rcases List.mem_append.1 hlogged with hbefore | hlogged
  · exact absurd hbefore hopen
  · refine ⟨?_, hlogged⟩
    obtain ⟨e, he, hhash⟩ := List.mem_map.1 hlogged
    refine List.mem_map.2 ⟨e, he, ?_⟩
    refine hnext.accounted.extrinsic_eq hnext.distinct hx (List.mem_append_left _ ?_) hhash
    rw [hexecuted]
    exact List.mem_append_right _ he

end Next

/-- What is kept up as long as the ledger is open. -/
structure Watching (r : Rules) (ops : List Op) : Prop where
  attending : State.Attending (r.promised ops) (r.reach ops)
  accepted : ∀ p ∈ r.promised ops, p.1 ∈ (r.chronicle ops).accepted
  fate : ∀ p ∈ r.promised ops, Fate r ops p.1 p.2

theorem Watching.answer?_eq_none_iff (h : Watching r ops) (hclear : Clear r ops)
    (hopen : Op.close ∉ ops) {p : Extrinsic × Ticket} (hp : p ∈ r.promised ops) :
    (r.reach ops).answer? p.2 = none ↔ p.1.hash ∉ (r.reach ops).events.map (·.tx) := by
  constructor
  · intro hnone
    rw [← hclear.holds_iff (h.accepted p hp)]
    cases h.fate p hp with
    | waiting hpool => exact hpool
    | included _ _ _ _ _ hstill =>
      rw [hstill] at hnone
      cases hnone
    | turnedAway hsplit =>
      refine absurd ?_ hopen
      rw [hsplit]
      simp
  · exact h.attending.answer?_eq_none hp

theorem Watching.concat (h : Watching r ops) (hnow : Clear r ops) (hnext : Clear r (ops ++ [op]))
    (hopen : Op.close ∉ ops ++ [op]) : Watching r (ops ++ [op]) := by
  have hbefore : Op.close ∉ ops := fun hmem => hopen (List.mem_append_left _ hmem)
  have hop : op ≠ .close := by
    rintro rfl
    exact hopen (List.mem_append_right _ (List.mem_singleton_self _))
  have hattends := hnow.attends hnext h.attending h.accepted hop
  have haccepted : ∀ p ∈ r.promised (ops ++ [op]), p.1 ∈ (r.chronicle (ops ++ [op])).accepted := by
    intro p hp
    rw [r.promised_concat] at hp
    rcases List.mem_append.1 hp with hp | hp
    · rw [r.chronicle_concat]
      exact List.mem_append_left _ (h.accepted p hp)
    · exact (hnow.promises hnext hp).1
  refine ⟨hattends.attending, haccepted, ?_⟩
  intro p hp
  by_cases hanswered : (r.reach ops).answer? p.2 = none
  · have hunlogged : p.1.hash ∉ (r.reach ops).events.map (·.tx) := by
      rw [r.promised_concat] at hp
      rcases List.mem_append.1 hp with hp | hp
      · exact (h.answer?_eq_none_iff hnow hbefore hp).1 hanswered
      · exact (hnow.promises hnext hp).2.1
    by_cases hlogged : p.1.hash ∈ (r.reach (ops ++ [op])).events.map (·.tx)
    · obtain ⟨hexecuted, hhash⟩ := hnow.executes hnext (haccepted p hp) hunlogged hlogged
      obtain ⟨receipt, hcertifies, htold⟩ := hattends.told p hp hunlogged hhash
      exact .included rfl hanswered hexecuted hcertifies htold htold
    · refine .waiting ((hnext.holds_iff (haccepted p hp)).2 hlogged) ?_
      exact hattends.attending.answer?_eq_none hp hlogged
  · -- The next ticket has not been answered, so this one is not new.
    rw [r.promised_concat] at hp
    rcases List.mem_append.1 hp with hp | hp
    · exact (h.fate p hp).append_of_answered hanswered [op]
    · rw [(hnow.promises hnext hp).2.2] at hanswered
      exact absurd h.attending.answer?_nextTicket hanswered

theorem watching_of_open (separate : r.keys.Separate) (hopen : Op.close ∉ ops) (few : Op.Few ops)
    (hapart : Op.HashesApart ops) : Watching r ops := by
  induction ops using List.reverseRecOn with
  | nil => exact ⟨.initial r, nofun, nofun⟩
  | append_singleton ops op ih =>
    have hprefix : ops <+: ops ++ [op] := List.prefix_append _ _
    have hbefore : Op.close ∉ ops := fun hmem => hopen (List.mem_append_left _ hmem)
    have hwatching := ih hbefore (few.of_prefix hprefix) (hapart.of_prefix hprefix)
    have hnow : Clear r ops :=
      clear_of_open separate hbefore (few.of_prefix hprefix) (hapart.of_prefix hprefix)
    exact hwatching.concat hnow (clear_of_open separate hopen few hapart) hopen

/-! ### In every run -/

theorem Watching.attended (h : Watching r ops) (hclear : Clear r ops) (hopen : Op.close ∉ ops) :
    Attended r ops := by
  have hstate : (r.reach ops).closed = false := State.closed_run rfl hopen
  obtain ⟨-, hturned⟩ := h.attending.close hstate
  refine ⟨?_, h.attending.tickets, h.fate, h.attending.once, ?_, ?_, ?_, hturned⟩
  · rw [h.attending.registered]
    congr 1
    refine List.filter_congr ?_
    intro p hp
    exact decide_eq_decide.2 (hclear.holds_iff (h.accepted p hp)).symm
  · intro answer hanswer
    obtain ⟨p, hp, hsame, -⟩ := h.attending.settled answer hanswer
    exact List.mem_map.2 ⟨p, hp, hsame⟩
  · intro x e
    exact State.serve_refused
  · unfold State.close
    rw [hstate, if_neg Bool.false_ne_true]

/-- After it is closed, a ledger keeps what it was when it was closed. -/
theorem Rules.reach_close (r : Rules) (before later : List Op) :
    ∃ best, r.reach (before ++ .close :: later) = { (r.reach before).close with best } := by
  rw [r.reach_append]
  exact State.run_of_closed (State.closed_close _) r later

theorem Rules.promised_close (r : Rules) (before later : List Op) :
    r.promised (before ++ .close :: later) = r.promised before := by
  have hclosed : ((r.reach before).step r .close).closed = true := State.closed_close _
  have hlater := State.promised_of_closed (r := r) hclosed later
  show (State.initial r).promised r _ = _
  rw [State.promised_append]
  show _ ++ ([] ++ ((r.reach before).step r .close).promised r later) = _
  rw [hlater, List.append_nil, List.append_nil]

/-- Those who are turned away by the close have been promised a receipt, as all who have been told. -/
theorem Watching.promised_of_settled_close (h : Watching r ops) (hopen : (r.reach ops).closed = false)
    {answer : Ticket × Except Node.Error Receipt} (hanswer : answer ∈ (r.reach ops).close.settled) :
    answer.1 ∈ (r.promised ops).map (·.2) := by
  rw [State.Attending.close_settled hopen] at hanswer
  rcases List.mem_append.1 hanswer with hold | hnew
  · obtain ⟨p, hp, hsame, -⟩ := h.attending.settled answer hold
    exact List.mem_map.2 ⟨p, hp, hsame⟩
  · obtain ⟨w, hw, rfl⟩ := List.mem_map.1 hnew
    obtain ⟨p, hp, -, rfl⟩ := h.attending.mem_watchers.1 hw
    exact List.mem_map_of_mem hp

/-- Whoever had not been told before the close is turned away by it, and told nothing else later. -/
theorem Watching.fate_close {before later : List Op} (h : Watching r before) (hclear : Clear r before)
    (hopen : Op.close ∉ before) {p : Extrinsic × Ticket} (hp : p ∈ r.promised before) :
    Fate r (before ++ .close :: later) p.1 p.2 := by
  have hstate : (r.reach before).closed = false := State.closed_run rfl hopen
  have hat : r.reach (before ++ [.close]) = (r.reach before).close := r.reach_concat before .close
  obtain ⟨best, hend⟩ := r.reach_close before later
  by_cases hanswered : (r.reach before).answer? p.2 = none
  · have hunlogged := (h.answer?_eq_none_iff hclear hopen hp).1 hanswered
    have htold := (h.attending.close hstate).2 _ (h.attending.mem_watchers.2 ⟨p, hp, hunlogged, rfl⟩)
    refine .turnedAway rfl ((hclear.holds_iff (h.accepted p hp)).2 hunlogged) hanswered ?_ ?_
    · rw [hat]
      exact htold
    · rw [hend]
      exact htold
  · exact (h.fate p hp).append_of_answered hanswered _

theorem Watching.attended_close {before later : List Op} (h : Watching r before)
    (hclear : Clear r before) (hopen : Op.close ∉ before) :
    Attended r (before ++ .close :: later) := by
  have hstate : (r.reach before).closed = false := State.closed_run rfl hopen
  have hclosed : (r.reach before).close.closed = true := State.closed_close _
  obtain ⟨best, hend⟩ := r.reach_close before later
  have hshut : (r.reach before).close.Shut := (State.shut_run r before).close
  have hwatchers : (r.reach (before ++ .close :: later)).watchers = [] := by
    rw [hend]
    exact hshut.watchers hclosed
  refine ⟨?_, ?_, ?_, ?_, ?_, fun _ _ => State.serve_refused, ?_⟩
  · have hnone : ∀ x, ¬(r.reach (before ++ .close :: later)).Holds x := by
      intro x
      unfold State.Holds
      rw [hend, hshut.ready hclosed, hshut.future hclosed]
      simp
    simp only [hwatchers, hnone, decide_false, List.filter_false, List.map_nil]
  · rw [r.promised_close]
    exact h.attending.tickets
  · rw [r.promised_close]
    intro p hp
    exact h.fate_close hclear hopen hp
  · rw [hend]
    exact (h.attending.close hstate).1
  · rw [r.promised_close, hend]
    intro answer hanswer
    exact h.promised_of_settled_close hstate hanswer
  · have hsame : (r.reach (before ++ .close :: later)).close = r.reach (before ++ .close :: later) := by
      rw [hend]
      exact State.close_of_closed hclosed
    rw [hsame, hwatchers]
    exact ⟨rfl, nofun⟩

end Runs

/-- **Every watcher is answered once, and by its own transaction.** In every run of a ledger, as long as
no two of the transactions that are handed in have one hash. -/
theorem run_attended (c : Config) (separate : (StorageKeys.ofLayout c.layout).Separate)
    (ops : List Op) (few : Op.Few ops) (hapart : Op.HashesApart ops) :
    Attended (Rules.ofConfig c) ops := by
  by_cases hclose : Op.close ∈ ops
  · obtain ⟨before, later, rfl, hopen⟩ := List.eq_append_cons_of_mem hclose
    have hprefix : before <+: before ++ .close :: later := List.prefix_append _ _
    have few' := few.of_prefix hprefix
    have hapart' := hapart.of_prefix hprefix
    exact (watching_of_open separate hopen few' hapart').attended_close
      (clear_of_open separate hopen few' hapart') hopen
  · exact (watching_of_open separate hclose few hapart).attended
      (clear_of_open separate hclose few hapart) hclose

/-- The operation, with someone who waits for its receipt if it hands in a transaction. -/
def Op.awaited : Op → Op
  | submit x _ => submit x true
  | op => op

theorem run_attended_outOfOrder :
    let ops := Op.outOfOrder.map Op.awaited ++
      [.block, .submitNeutral Ed25519.neutralKey 2 (.delete [7] [1]), .close]
    (StorageKeys.ofLayout {}).Separate ∧ Op.Few ops ∧ Op.HashesApart ops ∧
      Attended (Rules.ofConfig { sealMode := .manual }) ops := by
  intro ops
  have separate : (StorageKeys.ofLayout {}).Separate := by decide +kernel
  have few : Op.Few ops := by decide +kernel
  have hapart : Op.HashesApart ops := by decide +kernel
  exact ⟨separate, few, hapart, run_attended { sealMode := .manual } separate ops few hapart⟩

end MetaLedger.Ledger
