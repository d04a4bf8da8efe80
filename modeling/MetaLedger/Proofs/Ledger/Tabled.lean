import Mathlib.Data.List.Induction
import Mathlib.Logic.Function.Basic
import MetaLedger.Proofs.Ledger.Run

/-!
# Entries in a table

`State` keeps the entries of the head once, beside it, so that reading at the head and reading without
a block cannot differ. Here a ledger keeps the entries of its blocks in a table, by their hashes and those
of the head too, with a list of the blocks in it (`Tabled`). A new block is put into both, and then the
oldest ones are taken out, by their hashes, until few enough are left; funding writes the table again.

The table has no part in what else is done (`Tabled.run_state`). As long as a new block has a hash that no
block in the table has, the table and the list keep in step with the blocks that `State` keeps
(`Tabled.Faithful.step`), and at each block the same entries are found (`Tabled.Faithful.entriesAt_eq`).
If the oldest block had the hash of the new one, taking it out would take the head's entries out.
-/

namespace MetaLedger.Ledger

/-- The blocks that a ledger keeps with their entries, the head first. -/
def State.kept (s : State) : List (BlockHash × Entries) := (s.head, s.best) :: s.past

/-- A ledger that looks the entries of a block up in a table, those of the head also. It keeps them
beside the head's own, which are read where no block is named. -/
structure Tabled where
  state : State
  table : BlockHash → Option Entries
  /-- The blocks in the table, oldest first. -/
  history : List BlockHash

namespace Tabled

open Function (update)

def initial (r : Rules) : Tabled where
  state := State.initial r
  table := update (fun _ => none) r.genesis (some .empty)
  history := [r.genesis]

/-- The entries at a block, or at the head. -/
def entriesAt (t : Tabled) : Option BlockHash → Except Node.Error Entries
  | none => .ok t.state.best
  | some block =>
    match t.table block with
    | some entries => .ok entries
    | none => .error (.unknownBlock block)

/-- Drops the oldest blocks until no more than `limit` are left. -/
def dropOldest (limit : Nat) :
    List BlockHash → (BlockHash → Option Entries) → List BlockHash × (BlockHash → Option Entries)
  | [], table => ([], table)
  | oldest :: rest, table =>
    if limit < (oldest :: rest).length then dropOldest limit rest (update table oldest none)
    else (oldest :: rest, table)

def sealBlock (r : Rules) (t : Tabled) : Tabled :=
  let next := t.state.sealBlock r
  let (history, table) := dropOldest r.stateHistory (t.history ++ [next.head])
    (update t.table next.head (some next.best))
  ⟨next, table, history⟩

def sealIfInstant (r : Rules) (t : Tabled) : Tabled :=
  if r.sealMode = .instant && !t.state.ready.isEmpty then t.sealBlock r else t

def submit (r : Rules) (x : Extrinsic) (watched : Bool) (t : Tabled) :
    Except Node.Error TxHash × Tabled :=
  if t.state.closed then (.error .closed, t)
  else
    match t.state.validate r x with
    | .error reason => (.error (.rejected reason), t)
    | .ok (call, placement) =>
      let accepted := { t with state := t.state.accept r x watched call placement }
      (.ok x.hash, accepted.sealIfInstant r)

def requestSeal (r : Rules) (t : Tabled) : Except Node.Error BlockHash × Tabled :=
  if t.state.closed then (.error .closed, t)
  else
    let next := t.sealBlock r
    (.ok next.state.head, next)

/-- What is funded stands in the table too, at the head. -/
def fund (r : Rules) (account : AccountId) (free : Amount) (t : Tabled) : Tabled :=
  let next := t.state.fund r account free
  { t with state := next, table := update t.table next.head (some next.best) }

def step (r : Rules) (t : Tabled) : Op → Tabled
  | .submit x watched => (t.submit r x watched).2
  | .block => (t.requestSeal r).2
  | .fund account free => t.fund r account free
  | .close => { t with state := t.state.close }

def run (r : Rules) (t : Tabled) (ops : List Op) : Tabled := ops.foldl (step r) t

/-! ## The table has no part in what is done -/

theorem sealIfInstant_state (r : Rules) (t : Tabled) :
    (t.sealIfInstant r).state = t.state.sealIfInstant r := by
  unfold sealIfInstant State.sealIfInstant
  split <;> rfl

/-- A transaction gets the same answer with a table. -/
theorem submit_eq (r : Rules) (x : Extrinsic) (watched : Bool) (t : Tabled) :
    (t.submit r x watched).1 = (t.state.submit r x watched).1 ∧
      (t.submit r x watched).2.state = (t.state.submit r x watched).2 := by
  cases hclosed : t.state.closed with
  | true => simp [submit, State.submit, hclosed]
  | false =>
    cases hvalid : t.state.validate r x with
    | error reason => simp [submit, State.submit, hclosed, hvalid]
    | ok result =>
      obtain ⟨call, placement⟩ := result
      rw [State.submit_of_ok hclosed hvalid]
      unfold submit
      simp only [hclosed, hvalid, Bool.false_eq_true, if_false, sealIfInstant_state, and_self]

theorem step_state (r : Rules) (t : Tabled) (op : Op) : (t.step r op).state = t.state.step r op := by
  cases op with
  | submit x watched => exact (submit_eq r x watched t).2
  | block =>
    show (t.requestSeal r).2.state = (t.state.requestSeal r).2
    unfold requestSeal State.requestSeal
    split <;> rfl
  | fund | close => rfl

theorem run_state (r : Rules) (t : Tabled) (ops : List Op) :
    (t.run r ops).state = t.state.run r ops := by
  induction ops generalizing t with
  | nil => rfl
  | cons op ops ih =>
    exact (ih (t.step r op)).trans (congrArg (State.run r · ops) (step_state r t op))

/-! ## Looking up -/

/-- The first entries that are listed for a block. -/
def lookup (kept : List (BlockHash × Entries)) (block : BlockHash) : Option Entries :=
  (kept.find? (·.1 = block)).map (·.2)

theorem lookup_cons (b : BlockHash × Entries) (kept : List (BlockHash × Entries)) :
    lookup (b :: kept) = update (lookup kept) b.1 (some b.2) := by
  funext block
  unfold lookup
  by_cases h : b.1 = block
  · rw [List.find?_cons_of_pos (by simpa using h), ← h, Function.update_self]
    rfl
  · rw [List.find?_cons_of_neg (by simpa using h), Function.update_of_ne (Ne.symm h)]

/-- A block that is listed last, and once, is taken out of the table by its hash. -/
theorem lookup_concat {kept : List (BlockHash × Entries)} {b : BlockHash × Entries}
    (hb : b.1 ∉ kept.map (·.1)) : update (lookup (kept ++ [b])) b.1 none = lookup kept := by
  funext block
  unfold lookup
  by_cases h : block = b.1
  · subst h
    have hnone : kept.find? (·.1 = b.1) = none := by
      refine List.find?_eq_none.2 fun other hother heq => hb ?_
      rw [← of_decide_eq_true heq]
      exact List.mem_map_of_mem hother
    rw [Function.update_self, hnone]
    rfl
  · rw [Function.update_of_ne h, List.find?_append,
      List.find?_cons_of_neg (by simpa using Ne.symm h), List.find?_nil, Option.or_none]

theorem entriesAt_some (s : State) (block : BlockHash) :
    s.entriesAt (some block) =
      match lookup s.kept block with
      | some entries => .ok entries
      | none => .error (.unknownBlock block) := by
  unfold State.kept State.entriesAt
  rw [lookup_cons]
  by_cases h : block = s.head
  · simp only [h, if_true, Function.update_self]
  · simp only [h, if_false, Function.update_of_ne h, lookup]
    cases s.past.find? (·.1 = block) <;> rfl

/-! ## The table tells of the blocks that are kept -/

/-- Of blocks with different hashes the newest are left. The oldest is listed last, so taking it out by its
hash changes nothing for the others. -/
theorem dropOldest_lookup (limit : Nat) {kept : List (BlockHash × Entries)}
    (hdistinct : (kept.map (·.1)).Nodup) :
    dropOldest limit (kept.map (·.1)).reverse (lookup kept) =
      (((kept.take limit).map (·.1)).reverse, lookup (kept.take limit)) := by
  induction kept using List.reverseRecOn with
  | nil =>
    rw [List.take_nil]
    rfl
  | append_singleton newer oldest ih =>
    have hlisted : ((newer ++ [oldest]).map (·.1)).reverse =
        oldest.1 :: (newer.map (·.1)).reverse := by
      rw [List.map_append, List.reverse_append]
      rfl
    have hlength : (oldest.1 :: (newer.map (·.1)).reverse).length = newer.length + 1 := by
      rw [List.length_cons, List.length_reverse, List.length_map]
    rw [List.map_append] at hdistinct
    obtain ⟨hnewer, -, hdisjoint⟩ := List.nodup_append.1 hdistinct
    have habsent : oldest.1 ∉ newer.map (·.1) := fun hmem =>
      hdisjoint _ hmem _ List.mem_cons_self rfl
    rw [hlisted, dropOldest, hlength]
    split
    · next hfull =>
      rw [lookup_concat habsent, ih hnewer,
        List.take_append_of_le_length (Nat.le_of_lt_succ hfull)]
    · next hroom =>
      have htake : (newer ++ [oldest]).take limit = newer ++ [oldest] := by
        refine List.take_of_length_le ?_
        rw [List.length_append]
        exact Nat.not_lt.1 hroom
      rw [htake, hlisted]

/-- The table and the list of its blocks hold what is kept. -/
structure Faithful (r : Rules) (t : Tabled) : Prop where
  table : t.table = lookup t.state.kept
  history : t.history = (t.state.kept.map (·.1)).reverse
  length_le : t.state.kept.length ≤ r.stateHistory

namespace Faithful

variable {r : Rules} {t : Tabled}

theorem initial (hhistory : 0 < r.stateHistory) : Faithful r (Tabled.initial r) :=
  ⟨(lookup_cons (r.genesis, .empty) []).symm, rfl, hhistory⟩

theorem entriesAt_eq (h : Faithful r t) (block : Option BlockHash) :
    t.entriesAt block = t.state.entriesAt block := by
  cases block with
  | none => rfl
  | some block =>
    rw [entriesAt_some, ← h.table]
    rfl

/-- Nothing changes for the table where the blocks and their entries are as before. -/
theorem of_kept (h : Faithful r t) {s : State} (hkept : s.kept = t.state.kept) :
    Faithful r { t with state := s } := by
  refine ⟨?_, ?_, ?_⟩ <;> rw [hkept]
  · exact h.table
  · exact h.history
  · exact h.length_le

theorem fund (h : Faithful r t) (account : AccountId) (free : Amount) :
    Faithful r (t.fund r account free) := by
  refine ⟨?_, h.history, h.length_le⟩
  have htable : t.table = update (lookup t.state.past) t.state.head (some t.state.best) :=
    h.table.trans (lookup_cons _ _)
  show update t.table t.state.head _ = lookup ((t.state.head, _) :: t.state.past)
  rw [htable, Function.update_idem, lookup_cons]
  rfl

/-- A block with a hash of its own is put in front, and the oldest one is dropped if there is no place
for it. -/
theorem sealBlock (h : Faithful r t)
    (hdistinct : ((t.state.sealBlock r).head :: t.state.kept.map (·.1)).Nodup) :
    Faithful r (t.sealBlock r) := by
  generalize hnext : t.state.sealBlock r = next at hdistinct
  have hpositive : 0 < r.stateHistory := Nat.lt_of_lt_of_le (Nat.succ_pos _) h.length_le
  have hkept : next.kept = ((next.head, next.best) :: t.state.kept).take r.stateHistory := by
    rw [List.take_cons hpositive, State.kept, ← hnext, State.sealBlock_past]
    rfl
  have htable : update t.table next.head (some next.best) =
      lookup ((next.head, next.best) :: t.state.kept) := by
    rw [lookup_cons, h.table]
  have hlisted : t.history ++ [next.head] =
      (((next.head, next.best) :: t.state.kept).map (·.1)).reverse := by
    rw [h.history, List.map_cons, List.reverse_cons]
  have hnodup : (((next.head, next.best) :: t.state.kept).map (·.1)).Nodup := by
    rw [List.map_cons]
    exact hdistinct
  unfold Tabled.sealBlock
  simp only [hnext, hlisted, htable, dropOldest_lookup r.stateHistory hnodup, ← hkept]
  refine ⟨rfl, rfl, ?_⟩
  rw [hkept]
  exact List.length_take_le _ _

/-- No operation puts the table out of step, as long as a new block has a hash of its own. -/
theorem step (h : Faithful r t) (op : Op)
    (hdistinct : (t.state.step r op).number ≠ t.state.number →
      ((t.state.step r op).head :: t.state.kept.map (·.1)).Nodup) : Faithful r (t.step r op) := by
  cases op with
  | submit x watched =>
    show Faithful r (t.submit r x watched).2
    cases hclosed : t.state.closed with
    | true =>
      unfold submit
      rw [if_pos hclosed]
      exact h
    | false =>
      cases hvalid : t.state.validate r x with
      | error reason =>
        simp only [submit, hclosed, hvalid, Bool.false_eq_true, if_false]
        exact h
      | ok result =>
        obtain ⟨call, placement⟩ := result
        have hkept : (t.state.accept r x watched call placement).kept = t.state.kept := by
          simp only [State.kept, State.accept_head, State.accept_best, State.accept_past]
        have haccepted := h.of_kept hkept
        have hstep : t.state.step r (.submit x watched) =
            (t.state.accept r x watched call placement).sealIfInstant r := by
          rw [State.step, State.submit_of_ok hclosed hvalid]
        rw [hstep] at hdistinct
        simp only [submit, hclosed, hvalid, Bool.false_eq_true, if_false]
        unfold sealIfInstant
        split
        · next hseals =>
          refine haccepted.sealBlock ?_
          rw [State.sealIfInstant, if_pos hseals, State.sealBlock_number, State.accept_number]
            at hdistinct
          rw [hkept]
          exact hdistinct (Nat.succ_ne_self _)
        · exact haccepted
  | block =>
    show Faithful r (t.requestSeal r).2
    unfold requestSeal
    cases hclosed : t.state.closed with
    | true => exact h
    | false =>
      have hstep : t.state.step r .block = t.state.sealBlock r := State.requestSeal_of_open hclosed
      rw [hstep, State.sealBlock_number] at hdistinct
      exact h.sealBlock (hdistinct (Nat.succ_ne_self _))
  | fund account free => exact h.fund account free
  | close =>
    refine h.of_kept ?_
    unfold State.close
    split <;> rfl

end Faithful

end Tabled

end MetaLedger.Ledger
