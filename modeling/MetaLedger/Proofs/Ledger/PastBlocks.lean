import Mathlib.Data.List.Induction
import Mathlib.Data.List.Nodup
import MetaLedger.Ledger.Service
import MetaLedger.Proofs.Ledger.Tabled

/-!
# Reading at blocks of the past

Beside a run, `Annals` keeps the state in which each block was last the head. The entries that a ledger
keeps are those of the latest of these states, as many as its history is long (`Recorded`). Funding
changes the entries at the head, so what counts is the last state before the next block, and after that
nothing changes them. Hence, as long as no two blocks have one hash, a ledger reads at its latest blocks
as it did when they were the head, and at no others (`run_remembers`). So does a ledger that looks all of
them up in a table (`tabled_run`).
-/

namespace MetaLedger.Ledger

/-- A run of a ledger with what it was like before each of its blocks. -/
structure Annals where
  state : State
  /-- For each block before the head, latest first, the state in which it was last the head. -/
  earlier : List State := []

namespace Annals

def step (r : Rules) (h : Annals) (op : Op) : Annals :=
  let next := h.state.step r op
  ⟨next, if next.number = h.state.number then h.earlier else h.state :: h.earlier⟩

def run (r : Rules) (h : Annals) (ops : List Op) : Annals := ops.foldl (step r) h

def initial (r : Rules) : Annals := { state := State.initial r }

/-- The blocks of the chain, latest first. -/
def blocks (h : Annals) : List BlockHash := h.state.head :: h.earlier.map (·.head)

theorem run_state (r : Rules) (h : Annals) (ops : List Op) :
    (h.run r ops).state = h.state.run r ops := by
  induction ops generalizing h with
  | nil => rfl
  | cons op ops ih => exact ih (h.step r op)

/-- The blocks of the past stay what they are. -/
theorem earlier_suffix_run (r : Rules) (h : Annals) (ops : List Op) :
    h.earlier <:+ (h.run r ops).earlier := by
  induction ops generalizing h with
  | nil => exact List.suffix_rfl
  | cons op ops ih =>
    have hstep : h.earlier <:+ (h.step r op).earlier := by
      unfold step
      dsimp only
      split
      · exact List.suffix_rfl
      · exact List.suffix_cons _ _
    exact hstep.trans (ih (h.step r op))

/-! ## One operation -/

/-- No block is sealed from one state to the other. -/
structure SameChain (s t : State) : Prop where
  number : t.number = s.number
  head : t.head = s.head
  past : t.past = s.past

/-- One block is sealed, on top of the head. -/
structure NextBlock (r : Rules) (s t : State) : Prop where
  number : t.number = s.number + 1
  closed : t.closed = s.closed
  past : t.past = ((s.head, s.best) :: s.past).take (r.stateHistory - 1)

theorem step_cases (r : Rules) (s : State) (op : Op) :
    SameChain s (s.step r op) ∨ NextBlock r s (s.step r op) := by
  cases op with
  | submit x watched =>
    show SameChain s (s.submit r x watched).2 ∨ NextBlock r s (s.submit r x watched).2
    rcases State.submit_cases r x watched s with ⟨e, heq⟩ | ⟨call, placement, -, -, heq⟩
    · rw [heq]
      exact .inl ⟨rfl, rfl, rfl⟩
    · rw [heq]
      unfold State.sealIfInstant
      split
      · refine .inr ⟨?_, ?_, ?_⟩
        · rw [State.sealBlock_number, State.accept_number]
        · rw [State.sealBlock_closed, State.accept_closed]
        · rw [State.sealBlock_past, State.accept_head, State.accept_best, State.accept_past]
      · exact .inl ⟨State.accept_number .., State.accept_head .., State.accept_past ..⟩
  | block =>
    show SameChain s (s.requestSeal r).2 ∨ NextBlock r s (s.requestSeal r).2
    cases hclosed : s.closed with
    | true =>
      rw [State.requestSeal_of_closed hclosed]
      exact .inl ⟨rfl, rfl, rfl⟩
    | false =>
      rw [State.requestSeal_of_open hclosed]
      refine .inr ⟨State.sealBlock_number r s, ?_, State.sealBlock_past r s⟩
      rw [State.sealBlock_closed]
  | fund account free => exact .inl ⟨rfl, rfl, rfl⟩
  | close =>
    show SameChain s s.close ∨ NextBlock r s s.close
    unfold State.close
    split <;> exact .inl ⟨rfl, rfl, rfl⟩

theorem step_of_sameChain {r : Rules} {h : Annals} {op : Op}
    (hsame : SameChain h.state (h.state.step r op)) :
    h.step r op = ⟨h.state.step r op, h.earlier⟩ := by
  unfold step
  simp only [hsame.number, if_true]

theorem step_of_nextBlock {r : Rules} {h : Annals} {op : Op}
    (hnext : NextBlock r h.state (h.state.step r op)) :
    h.step r op = ⟨h.state.step r op, h.state :: h.earlier⟩ := by
  have hne : (h.state.step r op).number ≠ h.state.number := by
    rw [hnext.number]
    exact Nat.succ_ne_self _
  unfold step
  simp only [hne, if_false]

/-- A closed ledger stays closed. -/
theorem open_of_open_step {r : Rules} {s : State} {op : Op} (h : (s.step r op).closed = false) :
    s.closed = false := by
  by_cases hop : op = .close
  · subst hop
    cases hclosed : s.closed with
    | false => rfl
    | true =>
      have hstep : s.step r .close = s := by
        show s.close = s
        unfold State.close
        rw [if_pos hclosed]
      rw [hstep, hclosed] at h
      cases h
  · rwa [State.closed_step r s hop] at h

/-! ## What is kept of the past -/

/-- The ledger keeps the entries of the latest states in which its blocks were last the head. -/
structure Recorded (r : Rules) (h : Annals) : Prop where
  past : h.state.past = (h.earlier.map fun s => (s.head, s.best)).take (r.stateHistory - 1)
  number : h.earlier.length = h.state.number
  isOpen : h.state.closed = false → ∀ s ∈ h.earlier, s.closed = false

namespace Recorded

variable {r : Rules} {h : Annals}

theorem initial (r : Rules) : Recorded r (Annals.initial r) :=
  ⟨List.take_nil.symm, rfl, fun _ _ hs => nomatch hs⟩

theorem step (hrecorded : Recorded r h) (op : Op) : Recorded r (h.step r op) := by
  rcases step_cases r h.state op with hsame | hnext
  · rw [step_of_sameChain hsame]
    refine ⟨?_, ?_, ?_⟩
    · exact hsame.past.trans hrecorded.past
    · exact hrecorded.number.trans hsame.number.symm
    · intro hopen
      exact hrecorded.isOpen (open_of_open_step hopen)
  · rw [step_of_nextBlock hnext]
    refine ⟨?_, ?_, ?_⟩
    · -- Whether the oldest one is dropped before the new one comes makes no difference.
      have hdrop : ∀ (x : BlockHash × Entries) (kept : List (BlockHash × Entries)) (n : Nat),
          (x :: kept.take n).take n = (x :: kept).take n := by
        intro x kept n
        cases n with
        | zero => rfl
        | succ n => rw [List.take_succ_cons, List.take_succ_cons, List.take_take,
            Nat.min_eq_left (Nat.le_succ n)]
      rw [hnext.past, hrecorded.past, hdrop]
      rfl
    · rw [List.length_cons, hrecorded.number, hnext.number]
    · intro hopen s hs
      rw [hnext.closed] at hopen
      rcases List.mem_cons.1 hs with rfl | hs
      · exact hopen
      · exact hrecorded.isOpen hopen s hs

theorem run (hrecorded : Recorded r h) (ops : List Op) : Recorded r (h.run r ops) := by
  induction ops generalizing h with
  | nil => exact hrecorded
  | cons op ops ih => exact ih (hrecorded.step op)

end Recorded

/-! ## Reading -/

section Reading

variable {r : Rules} {h : Annals}

theorem find?_of_nodup {past : List (BlockHash × Entries)} (hnodup : (past.map (·.1)).Nodup)
    {b : BlockHash × Entries} (hb : b ∈ past) : past.find? (·.1 = b.1) = some b := by
  induction past with
  | nil => cases hb
  | cons first rest ih =>
    rw [List.map_cons, List.nodup_cons] at hnodup
    rcases List.mem_cons.1 hb with rfl | hb
    · rw [List.find?_cons_of_pos (by simp)]
    · have hne : first.1 ≠ b.1 := by
        intro heq
        exact hnodup.1 (heq ▸ List.mem_map_of_mem hb)
      rw [List.find?_cons_of_neg (by simp [hne])]
      exact ih hnodup.2 hb

/-- A ledger answers at one block what it answered, in another state, at another one. -/
structure Alike (s : State) (block : Option BlockHash) (t : State) (block' : Option BlockHash) :
    Prop where
  storage : ∀ address, s.storage address block = t.storage address block'
  keys : ∀ start count after, s.keys start count after block = t.keys start count after block'

theorem Alike.symm {s t : State} {block block' : Option BlockHash} (halike : Alike s block t block') :
    Alike t block' s block :=
  ⟨fun address => (halike.storage address).symm,
    fun start count after => (halike.keys start count after).symm⟩

theorem Alike.trans {s t u : State} {block block' block'' : Option BlockHash}
    (hfirst : Alike s block t block') (hsecond : Alike t block' u block'') :
    Alike s block u block'' :=
  ⟨fun address => (hfirst.storage address).trans (hsecond.storage address),
    fun start count after => (hfirst.keys start count after).trans (hsecond.keys start count after)⟩

/-- What a ledger answers at a block depends on the entries that it finds there. -/
theorem alike_of_entriesAt {s t : State} (hclosed : s.closed = t.closed)
    {block block' : Option BlockHash} (hentries : s.entriesAt block = t.entriesAt block') :
    Alike s block t block' := by
  constructor
  · intro address
    unfold State.storage
    rw [hclosed, hentries]
  · intro start count after
    unfold State.keys
    rw [hclosed, hentries]

theorem entriesAt_head (s : State) : s.entriesAt (some s.head) = s.entriesAt none := by
  simp only [State.entriesAt, if_true]

theorem blocks_take (h : Annals) {n : Nat} (hn : 0 < n) :
    h.blocks.take n = h.state.head :: (h.earlier.take (n - 1)).map (·.head) := by
  obtain ⟨n, rfl⟩ : ∃ m, n = m + 1 := ⟨n - 1, by omega⟩
  unfold blocks
  rw [List.take_succ_cons, Nat.add_sub_cancel, List.map_take]

theorem Recorded.past_map_fst (hrecorded : Recorded r h) :
    h.state.past.map (·.1) = (h.earlier.take (r.stateHistory - 1)).map (·.head) := by
  rw [hrecorded.past, ← List.map_take, List.map_map]
  rfl

theorem Recorded.entriesAt_earlier (hrecorded : Recorded r h) (hdistinct : h.blocks.Nodup)
    {s : State} (hs : s ∈ h.earlier.take (r.stateHistory - 1)) :
    h.state.entriesAt (some s.head) = .ok s.best := by
  obtain ⟨hhead, hearlier⟩ := List.nodup_cons.1 hdistinct
  have hne : s.head ≠ h.state.head := by
    intro heq
    rw [← heq] at hhead
    exact hhead (List.mem_map_of_mem (List.mem_of_mem_take hs))
  have hnodup : (h.state.past.map (·.1)).Nodup := by
    rw [hrecorded.past_map_fst]
    exact hearlier.sublist ((List.take_sublist _ _).map _)
  have hmem : (s.head, s.best) ∈ h.state.past := by
    rw [hrecorded.past, ← List.map_take]
    exact List.mem_map_of_mem hs
  have hfind := find?_of_nodup hnodup hmem
  unfold State.entriesAt
  simp only [hne, if_false, hfind]

theorem Recorded.entriesAt_unknown (hrecorded : Recorded r h) (hhistory : 0 < r.stateHistory)
    {block : BlockHash} (hblock : block ∉ h.blocks.take r.stateHistory) :
    h.state.entriesAt (some block) = .error (.unknownBlock block) := by
  rw [h.blocks_take hhistory, ← hrecorded.past_map_fst] at hblock
  obtain ⟨hne, hpast⟩ := not_or.1 (mt List.mem_cons.2 hblock)
  have hfind : h.state.past.find? (·.1 = block) = none := by
    refine List.find?_eq_none.2 fun b hb heq => hpast ?_
    rw [← of_decide_eq_true heq]
    exact List.mem_map_of_mem hb
  unfold State.entriesAt
  simp only [hne, if_false, hfind]

/-- A block is readable where nothing it can be asked about fails. -/
structure Readable (s : State) (block : BlockHash) : Prop where
  storage : ∀ address, ∃ value, s.storage address (some block) = .ok value
  keys : ∀ start count after, ∃ page, s.keys start count after (some block) = .ok page

/-- A block is unknown where everything it can be asked about fails for that reason. -/
structure Unknown (s : State) (block : BlockHash) : Prop where
  storage : ∀ address, s.storage address (some block) = .error (.unknownBlock block)
  keys : ∀ start count after, s.keys start count after (some block) = .error (.unknownBlock block)

theorem readable_of_entriesAt {s : State} (hopen : s.closed = false) {block : BlockHash}
    {entries : Entries} (hentries : s.entriesAt (some block) = .ok entries) : Readable s block := by
  constructor
  · intro address
    refine ⟨entries.get? address, ?_⟩
    simp only [State.storage, hopen, hentries, Bool.false_eq_true, if_false]
  · intro start count after
    refine ⟨entries.page start count.toNat after, ?_⟩
    simp only [State.keys, hopen, hentries, Bool.false_eq_true, if_false]

theorem unknown_of_entriesAt {s : State} (hopen : s.closed = false) {block : BlockHash}
    (hentries : s.entriesAt (some block) = .error (.unknownBlock block)) : Unknown s block := by
  constructor
  · intro address
    simp only [State.storage, hopen, hentries, Bool.false_eq_true, if_false]
  · intro start count after
    simp only [State.keys, hopen, hentries, Bool.false_eq_true, if_false]

theorem Recorded.alike_earlier (hrecorded : Recorded r h) (hopen : h.state.closed = false)
    (hdistinct : h.blocks.Nodup) {s : State} (hs : s ∈ h.earlier.take (r.stateHistory - 1)) :
    Alike h.state (some s.head) s none := by
  refine alike_of_entriesAt ?_ (hrecorded.entriesAt_earlier hdistinct hs)
  rw [hopen, hrecorded.isOpen hopen s (List.mem_of_mem_take hs)]

theorem Recorded.readable (hrecorded : Recorded r h) (hopen : h.state.closed = false)
    (hhistory : 0 < r.stateHistory) (hdistinct : h.blocks.Nodup) {block : BlockHash}
    (hblock : block ∈ h.blocks.take r.stateHistory) : Readable h.state block := by
  rw [h.blocks_take hhistory] at hblock
  rcases List.mem_cons.1 hblock with rfl | hblock
  · exact readable_of_entriesAt hopen (entriesAt_head h.state)
  · obtain ⟨s, hs, rfl⟩ := List.mem_map.1 hblock
    exact readable_of_entriesAt hopen (hrecorded.entriesAt_earlier hdistinct hs)

/-- What was kept of a state is still kept as long as its block is. -/
theorem earlier_of_retained {t : Annals} {n : Nat} (hsuffix : h.earlier <:+ t.earlier)
    (hdistinct : t.blocks.Nodup) {s : State} (hs : s ∈ h.earlier)
    (hretained : s.head ∈ t.blocks.take n) :
    s ∈ t.earlier.take (n - 1) ∧ s ∈ h.earlier.take (n - 1) := by
  obtain ⟨hhead, hearlier⟩ := List.nodup_cons.1 hdistinct
  have hmem : s ∈ t.earlier := hsuffix.subset hs
  obtain ⟨n, rfl⟩ : ∃ m, n = m + 1 := by
    cases n with
    | zero => cases hretained
    | succ n => exact ⟨n, rfl⟩
  rw [t.blocks_take (Nat.succ_pos n), Nat.succ_sub_one] at hretained
  rw [Nat.add_sub_cancel]
  rcases List.mem_cons.1 hretained with heq | hretained
  · rw [← heq] at hhead
    exact absurd (List.mem_map_of_mem hmem) hhead
  · obtain ⟨s', hs', heq⟩ := List.mem_map.1 hretained
    have hsame : s' = s :=
      List.inj_on_of_nodup_map hearlier (List.mem_of_mem_take hs') hmem heq
    subst hsame
    refine ⟨hs', ?_⟩
    -- It is not among the blocks that came afterwards, so it stands at least as far in front.
    obtain ⟨recent, hrecent⟩ := hsuffix
    have hnodup : (recent ++ h.earlier).Nodup := by
      rw [hrecent]
      exact List.Nodup.of_map _ hearlier
    rw [← hrecent, List.take_append] at hs'
    rcases List.mem_append.1 hs' with hs' | hs'
    · exact absurd hs ((List.nodup_append.1 hnodup).2.2 s' (List.mem_of_mem_take hs') s' · rfl)
    · exact (List.take_subset_take_left _ (Nat.sub_le _ _)) hs'

end Reading

/-! ## Every run -/

/-- A block that a run has left behind was sealed upon by one of its operations. -/
theorem earlier_mem_run {r : Rules} {ops : List Op} {s : State}
    (hs : s ∈ ((initial r).run r ops).earlier) :
    ∃ before op after, ops = before ++ op :: after ∧ s = (State.initial r).run r before ∧
      (s.step r op).number = s.number + 1 := by
  induction ops using List.reverseRecOn with
  | nil => cases hs
  | append_singleton ops op ih =>
    have hrun : (initial r).run r (ops ++ [op]) = ((initial r).run r ops).step r op := by
      unfold run
      rw [List.foldl_append]
      rfl
    have hearlier : s ∈ ((initial r).run r ops).earlier →
        ∃ before op' after, ops ++ [op] = before ++ op' :: after ∧
          s = (State.initial r).run r before ∧ (s.step r op').number = s.number + 1 := by
      intro hs
      obtain ⟨before, op', after, rfl, hrest⟩ := ih hs
      exact ⟨before, op', after ++ [op], by simp, hrest⟩
    have hstate := run_state r (initial r) ops
    rw [hrun] at hs
    rcases step_cases r ((initial r).run r ops).state op with hsame | hnext
    · rw [step_of_sameChain hsame] at hs
      exact hearlier hs
    · rw [step_of_nextBlock hnext] at hs
      rcases List.mem_cons.1 hs with rfl | hs
      · exact ⟨ops, op, [], rfl, hstate, hnext.number⟩
      · exact hearlier hs

theorem blocks_suffix_run (r : Rules) (h : Annals) (ops : List Op) :
    h.blocks <:+ (h.run r ops).blocks := by
  induction ops generalizing h with
  | nil => exact List.suffix_rfl
  | cons op ops ih =>
    have hstep : h.blocks <:+ (h.step r op).blocks := by
      rcases step_cases r h.state op with hsame | hnext
      · have hblocks : (h.step r op).blocks = h.blocks := by
          rw [step_of_sameChain hsame]
          exact congrArg (· :: h.earlier.map (·.head)) hsame.head
        exact hblocks ▸ List.suffix_rfl
      · rw [step_of_nextBlock hnext]
        exact List.suffix_cons _ _
    exact hstep.trans (ih (h.step r op))

theorem open_of_open_run {r : Rules} {s : State} {ops : List Op}
    (h : (s.run r ops).closed = false) : s.closed = false := by
  induction ops generalizing s with
  | nil => exact h
  | cons op ops ih => exact open_of_open_step (ih h)

/-! ## With a table -/

theorem Recorded.kept_map_fst {r : Rules} {h : Annals} (hrecorded : Recorded r h)
    (hhistory : 0 < r.stateHistory) : h.state.kept.map (·.1) = h.blocks.take r.stateHistory := by
  rw [h.blocks_take hhistory, ← hrecorded.past_map_fst]
  rfl

/-- As long as no two blocks have one hash, a table keeps in step with a run. -/
theorem faithful_run {r : Rules} (hhistory : 0 < r.stateHistory) (ops : List Op)
    (hdistinct : ((initial r).run r ops).blocks.Nodup) :
    Tabled.Faithful r ((Tabled.initial r).run r ops) := by
  induction ops using List.reverseRecOn with
  | nil => exact .initial hhistory
  | append_singleton ops op ih =>
    have hrun : (initial r).run r (ops ++ [op]) = ((initial r).run r ops).step r op :=
      List.foldl_append
    have htabled : (Tabled.initial r).run r (ops ++ [op]) =
        ((Tabled.initial r).run r ops).step r op := List.foldl_append
    have hstate : ((Tabled.initial r).run r ops).state = ((initial r).run r ops).state :=
      (Tabled.run_state r _ ops).trans (run_state r (initial r) ops).symm
    have hrecorded : Recorded r ((initial r).run r ops) := (Recorded.initial r).run ops
    rw [hrun] at hdistinct
    rw [htabled]
    have hbefore := hdistinct.sublist (blocks_suffix_run r _ [op]).sublist
    refine (ih hbefore).step op fun hnumber => ?_
    rw [hstate] at hnumber ⊢
    rw [hrecorded.kept_map_fst hhistory]
    -- The block is new, so the chain has its hash in front of those that are kept.
    rcases step_cases r ((initial r).run r ops).state op with hsame | hnext
    · exact absurd hsame.number hnumber
    · rw [step_of_nextBlock hnext] at hdistinct
      exact hdistinct.sublist ((List.take_sublist _ _).cons_cons _)

/-- A ledger with a table is in a given state, and finds the same entries at each block; at its head it
finds by the hash what it finds without one. -/
structure ReadsAs (t : Tabled) (s : State) : Prop where
  state_eq : t.state = s
  entriesAt_eq : ∀ block, t.entriesAt block = s.entriesAt block
  head : t.entriesAt (some s.head) = t.entriesAt none

theorem tabled_run {r : Rules} (hhistory : 0 < r.stateHistory) (ops : List Op)
    (hdistinct : ((initial r).run r ops).blocks.Nodup) :
    ReadsAs ((Tabled.initial r).run r ops) ((State.initial r).run r ops) := by
  have hstate : ((Tabled.initial r).run r ops).state = (State.initial r).run r ops :=
    Tabled.run_state r (Tabled.initial r) ops
  have hentries : ∀ block, ((Tabled.initial r).run r ops).entriesAt block =
      ((State.initial r).run r ops).entriesAt block := by
    intro block
    rw [← hstate]
    exact (faithful_run hhistory ops hdistinct).entriesAt_eq block
  refine ⟨hstate, hentries, ?_⟩
  rw [hentries, hentries, entriesAt_head]

/-! ## Every run -/

/-- What a ledger answers about the blocks of its chain, with a history of a given length. -/
structure Remembers (history : Nat) (t : Annals) : Prop where
  chain : t.blocks.length = t.state.number + 1
  readable : ∀ block,
    block ∈ t.blocks.take (min (t.state.number + 1) (max 1 history)) → Readable t.state block
  unknown : ∀ block,
    block ∉ t.blocks.take (min (t.state.number + 1) (max 1 history)) → Unknown t.state block
  head : Alike t.state (some t.state.head) t.state none
  /-- The blocks before the head are read as when they were last the head. -/
  past : ∀ s ∈ t.earlier.take (max 1 history - 1), Alike t.state (some s.head) s none

theorem Recorded.remembers {c : Config} {t : Annals} (hrecorded : Recorded (Rules.ofConfig c) t)
    (hopen : t.state.closed = false) (hdistinct : t.blocks.Nodup) :
    Remembers c.stateHistory t := by
  have hchain : t.blocks.length = t.state.number + 1 := by
    unfold blocks
    rw [List.length_cons, List.length_map, hrecorded.number]
  have hhistory : 0 < (Rules.ofConfig c).stateHistory := Nat.le_max_left 1 c.stateHistory
  have htake : t.blocks.take (min (t.state.number + 1) (max 1 c.stateHistory)) =
      t.blocks.take (Rules.ofConfig c).stateHistory := by
    rw [← hchain, Nat.min_comm, ← List.take_eq_take_min]
    rfl
  refine ⟨hchain, ?_, ?_, ?_, ?_⟩
  · intro block hblock
    rw [htake] at hblock
    exact hrecorded.readable hopen hhistory hdistinct hblock
  · intro block hblock
    rw [htake] at hblock
    exact unknown_of_entriesAt hopen (hrecorded.entriesAt_unknown hhistory hblock)
  · exact alike_of_entriesAt rfl (entriesAt_head t.state)
  · intro s hs
    exact hrecorded.alike_earlier hopen hdistinct hs

/-- **The past stays what it was.** However a ledger is used, as long as it is open and no two of its
blocks have one hash, it reads at its latest blocks as it did when they were last the head, and at no
other ones. Nothing that is done `later` changes what it answers at a block that is not the head any
more, until it drops the block. All this is so too where the entries of the blocks, the head's included,
are looked up in a table. -/
theorem run_remembers (c : Config) (before later : List Op) :
    let r := Rules.ofConfig c
    let h := (initial r).run r before
    let t := h.run r later
    t.state.closed = false → t.blocks.Nodup →
      t.state = (State.initial r).run r (before ++ later) ∧
      Remembers c.stateHistory t ∧
      (∀ s ∈ t.earlier, ∃ earlier op after, before ++ later = earlier ++ op :: after ∧
        s = (State.initial r).run r earlier ∧ (s.step r op).number = s.number + 1) ∧
      (∀ block ∈ h.blocks.tail, block ∈ t.blocks.take (max 1 c.stateHistory) →
        Alike t.state (some block) h.state (some block)) ∧
      ReadsAs ((Tabled.initial r).run r (before ++ later)) t.state := by
  intro r h t hopen hdistinct
  have hwhole : t = (initial r).run r (before ++ later) := List.foldl_append.symm
  have hstate : t.state = (State.initial r).run r (before ++ later) := by
    rw [hwhole]
    exact run_state r (initial r) (before ++ later)
  have hrecorded : Recorded r h := (Recorded.initial r).run before
  have hrecorded' : Recorded r t := hrecorded.run later
  refine ⟨hstate, hrecorded'.remembers hopen hdistinct, ?_, ?_, ?_⟩
  · intro s hs
    rw [hwhole] at hs
    exact earlier_mem_run hs
  · intro block hblock hretained
    obtain ⟨s, hs, rfl⟩ := List.mem_map.1 hblock
    obtain ⟨hlater, hnow⟩ :=
      earlier_of_retained (earlier_suffix_run r h later) hdistinct hs hretained
    have hopen' : h.state.closed = false := by
      have hrun := run_state r h later
      rw [show h.run r later = t from rfl] at hrun
      rw [hrun] at hopen
      exact open_of_open_run hopen
    have hdistinct' : h.blocks.Nodup := hdistinct.sublist (blocks_suffix_run r h later).sublist
    exact (hrecorded'.alike_earlier hopen hdistinct hlater).trans
      (hrecorded.alike_earlier hopen' hdistinct' hnow).symm
  · rw [hstate]
    rw [hwhole] at hdistinct
    have hhistory : 0 < r.stateHistory := Nat.le_max_left 1 c.stateHistory
    exact tabled_run hhistory (before ++ later) hdistinct

open Ed25519 (signedNeutralKey) in
/-- The head's entries are changed once more before and after the block that is read. -/
theorem run_remembers_funded :
    let r := Rules.ofConfig { stateHistory := 2 }
    let before := [.block, .fund ⟨signedNeutralKey⟩ 1, .block]
    let later := [.fund ⟨signedNeutralKey⟩ 2]
    let h := (initial r).run r before
    let t := h.run r later
    Remembers 2 t ∧ ∀ block ∈ h.blocks.tail, block ∈ t.blocks.take 2 →
      Alike t.state (some block) h.state (some block) := by
  intro r before later h t
  have hopen : t.state.closed = false := by decide +kernel
  have hdistinct : t.blocks.Nodup := by decide +kernel
  obtain ⟨-, hremembers, -, hkept, -⟩ :=
    run_remembers { stateHistory := 2 } before later hopen hdistinct
  exact ⟨hremembers, hkept⟩

end Annals

end MetaLedger.Ledger
