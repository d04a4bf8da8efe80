import MetaLedger.Proofs.Ledger.History

/-!
# All that an operation can do

Six things can come of an operation: it does nothing, a transaction is queued, with or without a block
after it, a block is sealed, an account is funded, or the ledger is closed (`State.Effect`). Each case
says which transactions are accepted and executed by it and gives the next state by an equation, so that
facts about runs are proved by cases on it (`State.effect_step`).

An operation seals one block at most, so block numbers stay within 64 bits for as long as there have been
fewer operations than such numbers (`State.run_numbers_fit`).

A ledger that is closed is left with the first and the fifth case (`State.Effect.of_closed`): there is
nothing in it that could be executed or answered (`State.Shut`), and there never will be.
-/

namespace MetaLedger.Ledger.State

variable {r : Rules} {s t : State} {op : Op} {accepted : List Extrinsic} {executed : List PoolEntry}

/-- What comes of an operation: the transactions that it accepts and executes, and the next state. -/
inductive Effect (r : Rules) (s : State) :
    Op → List Extrinsic → List PoolEntry → State → Prop where
  | nothing (op : Op) : Effect r s op [] [] s
  | queued {x : Extrinsic} {watched : Bool} {call : Call} {placement : Placement} :
      s.closed = false → s.Valid r x call placement →
      Effect r s (.submit x watched) [x] [] (s.accept r x watched call placement)
  | included {x : Extrinsic} {watched : Bool} {call : Call} {placement : Placement} :
      s.closed = false → s.Valid r x call placement → r.sealMode = .instant →
      Effect r s (.submit x watched) [x] (s.accept r x watched call placement).ready
        ((s.accept r x watched call placement).sealBlock r)
  | sealed : s.closed = false → Effect r s .block [] s.ready (s.sealBlock r)
  | funded (account : AccountId) (free : Amount) :
      Effect r s (.fund account free) [] [] (s.fund r account free)
  | closed : s.closed = false → Effect r s .close [] [] s.close

theorem close_of_closed (h : s.closed = true) : s.close = s := by
  unfold close
  rw [if_pos h]

theorem closed_close (s : State) : s.close.closed = true := by
  unfold close
  split
  · next h => exact h
  · rfl

theorem effect_submit (r : Rules) (s : State) (x : Extrinsic) (watched : Bool) :
    Effect r s (.submit x watched) (s.accepts r (.submit x watched))
      (s.executes r (.submit x watched)) (s.step r (.submit x watched)) := by
  unfold accepts executes step
  rcases submit_cases r x watched s with ⟨e, heq⟩ | ⟨call, placement, hopen, hvalid, heq⟩
  · simp only [heq]
    exact .nothing _
  · simp only [heq, hvalid]
    have hchecked := validate_eq_ok_iff.1 hvalid
    cases hmode : r.sealMode with
    | manual =>
      rw [sealIfInstant_of_manual hmode, if_neg (by decide)]
      exact .queued hopen hchecked
    | instant =>
      rw [if_pos rfl]
      by_cases hready : (s.accept r x watched call placement).ready = []
      · rw [sealIfInstant_of_empty hready, hready]
        exact .queued hopen hchecked
      · rw [sealIfInstant_of_ready hmode hready]
        exact .included hopen hchecked hmode

theorem effect_step (r : Rules) (s : State) (op : Op) :
    Effect r s op (s.accepts r op) (s.executes r op) (s.step r op) := by
  cases op with
  | submit x watched => exact effect_submit r s x watched
  | block =>
    unfold accepts executes step
    cases hclosed : s.closed with
    | true =>
      rw [requestSeal_of_closed hclosed, if_pos rfl]
      exact .nothing _
    | false =>
      rw [requestSeal_of_open hclosed, if_neg Bool.false_ne_true]
      exact .sealed hclosed
  | fund account free => exact .funded account free
  | close =>
    unfold accepts executes step
    cases hclosed : s.closed with
    | true =>
      rw [close_of_closed hclosed]
      exact .nothing _
    | false => exact .closed hclosed

/-! ## A closed ledger -/

theorem Effect.of_closed (h : Effect r s op accepted executed t) (hclosed : s.closed = true) :
    accepted = [] ∧ executed = [] ∧ (t = s ∨ ∃ account free, t = s.fund r account free) := by
  cases h with
  | nothing => simp
  | funded account free => exact ⟨rfl, rfl, .inr ⟨account, free, rfl⟩⟩
  | queued hopen | included hopen | sealed hopen | closed hopen =>
    rw [hclosed] at hopen
    cases hopen

/-- If the ledger is closed, nothing is in the pool, and no one waits. -/
structure Shut (s : State) : Prop where
  ready : s.closed = true → s.ready = []
  future : s.closed = true → s.future = []
  watchers : s.closed = true → s.watchers = []

theorem shut_of_open (h : s.closed = false) : Shut s := by
  constructor <;> intro hclosed <;> rw [h] at hclosed <;> cases hclosed

theorem Shut.close (h : Shut s) : Shut s.close := by
  unfold State.close
  split
  · exact h
  · exact ⟨fun _ => rfl, fun _ => rfl, fun _ => rfl⟩

theorem Shut.step (h : Shut s) (r : Rules) (op : Op) : Shut (s.step r op) := by
  refine preserved_step ?_ ?_ ?_ ?_ h op
  · intro s x watched call placement hopen _ _
    exact shut_of_open (by rw [accept_closed, hopen])
  · intro s hopen _
    exact shut_of_open (by rw [sealBlock_closed, hopen])
  · intro s account free h
    exact ⟨h.ready, h.future, h.watchers⟩
  · intro s h
    exact h.close

theorem shut_run (r : Rules) (ops : List Op) : Shut ((State.initial r).run r ops) :=
  preserved_run (fun _ op h => h.step r op) (shut_of_open rfl) ops

/-- Whatever is asked of a closed ledger, nothing but what is stored of accounts can change. -/
theorem run_of_closed (hclosed : s.closed = true) (r : Rules) (ops : List Op) :
    ∃ best, s.run r ops = { s with best } := by
  induction ops generalizing s with
  | nil => exact ⟨s.best, rfl⟩
  | cons op ops ih =>
    show ∃ best, (s.step r op).run r ops = { s with best }
    obtain ⟨-, -, hstep | ⟨account, free, hstep⟩⟩ := (effect_step r s op).of_closed hclosed
    · rw [hstep]
      exact ih hclosed
    · rw [hstep]
      exact ih (s := s.fund r account free) hclosed

/-! ## Block numbers -/

/-- No more than `n` blocks have been sealed, and nothing is logged for a later one. -/
structure Counted (n : Nat) (s : State) : Prop where
  number_le : s.number ≤ n
  block_le : ∀ x ∈ s.events, x.block ≤ s.number

namespace Counted

variable {n : Nat}

theorem sealBlock (h : Counted n s) (r : Rules) : Counted (n + 1) (s.sealBlock r) := by
  constructor
  · rw [sealBlock_number]
    exact Nat.succ_le_succ h.number_le
  · intro x hx
    rw [sealBlock_events] at hx
    rw [sealBlock_number]
    rcases List.mem_append.1 hx with hx | hx
    · exact Nat.le_succ_of_le (h.block_le x hx)
    · obtain ⟨tx, -, rfl⟩ := List.mem_map.1 hx
      exact Nat.le_refl _

theorem accept (h : Counted n s) (r : Rules) (x : Extrinsic) (watched : Bool) (call : Call)
    (placement : Placement) : Counted n (s.accept r x watched call placement) := by
  constructor
  · rw [accept_number]
    exact h.number_le
  · rw [accept_number, accept_events]
    exact h.block_le

theorem succ (h : Counted n s) : Counted (n + 1) s :=
  ⟨Nat.le_succ_of_le h.number_le, h.block_le⟩

/-- An operation seals one block at most. -/
theorem effect (h : Counted n s) (heffect : Effect r s op accepted executed t) :
    Counted (n + 1) t := by
  cases heffect with
  | nothing => exact h.succ
  | queued => exact (h.accept ..).succ
  | included => exact (h.accept ..).sealBlock r
  | sealed => exact h.sealBlock r
  | funded account free => exact succ ⟨h.number_le, h.block_le⟩
  | closed =>
    unfold close
    split <;> exact succ ⟨h.number_le, h.block_le⟩

theorem run (h : Counted n s) (r : Rules) (ops : List Op) :
    Counted (n + ops.length) (s.run r ops) := by
  induction ops generalizing s n with
  | nil => exact h
  | cons op ops ih =>
    rw [List.length_cons, Nat.add_comm ops.length, ← Nat.add_assoc]
    exact ih (h.effect (effect_step r s op))

end Counted

/-- Numbers of 64 bits suffice for the blocks of all runs with fewer operations than there are such
numbers, and for what is logged of them. -/
theorem run_numbers_fit (r : Rules) {ops : List Op} (h : ops.length < UInt64.size) :
    let s := (State.initial r).run r ops
    s.number < UInt64.size ∧ ∀ x ∈ s.events, x.block < UInt64.size := by
  intro s
  have hinitial : Counted 0 (State.initial r) := ⟨Nat.le_refl 0, nofun⟩
  have hcounted : Counted (0 + ops.length) s := hinitial.run r ops
  rw [Nat.zero_add] at hcounted
  have hnumber : s.number < UInt64.size := Nat.lt_of_le_of_lt hcounted.number_le h
  exact ⟨hnumber, fun x hx => Nat.lt_of_le_of_lt (hcounted.block_le x hx) hnumber⟩

end MetaLedger.Ledger.State
