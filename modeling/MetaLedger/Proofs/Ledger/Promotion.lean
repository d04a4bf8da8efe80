import MetaLedger.Ledger.Pool
import MetaLedger.Proofs.Ledger.Execution

/-!
# Promotion

Which waiting transactions of an account have their turn depends on the next nonce of the account and
on the ones that wait, not on the queue they are moved to: `due` picks them from these two alone,
and promotion appends what it picks (`promoteInto_eq_due`). What is picked carries consecutive
nonces from the next one on, and of those left none carries the one after (`Promoted`).

The nonces are 32-bit numbers, and the count of an account's transactions is added to them without
a check. A sum that wraps finds no one where all that wait carry later nonces than the account has
used (`promoted_due`).
-/

namespace MetaLedger.Ledger.State

/-! ## The transactions of an account -/

section Signer

variable {entries : List PoolEntry} {a : AccountId}

theorem filter_signer_eq_self (h : ∀ e ∈ entries, e.signer = a) :
    entries.filter (·.signer = a) = entries :=
  List.filter_eq_self.2 fun e he => decide_eq_true (h e he)

theorem filter_signer_eq_nil (h : ∀ e ∈ entries, e.signer ≠ a) :
    entries.filter (·.signer = a) = [] :=
  List.filter_eq_nil_iff.2 fun e he hsame => h e he (of_decide_eq_true hsame)

theorem countP_signer_eq_length (h : ∀ e ∈ entries, e.signer = a) :
    entries.countP (·.signer = a) = entries.length :=
  List.countP_eq_length.2 fun e he => decide_eq_true (h e he)

theorem countP_signer_eq_zero (h : ∀ e ∈ entries, e.signer ≠ a) :
    entries.countP (·.signer = a) = 0 :=
  List.countP_eq_zero.2 fun e he hsame => h e he (of_decide_eq_true hsame)

end Signer

/-! ## Whose turn it is -/

def isAt (signer : AccountId) (nonce : Nonce) (e : PoolEntry) : Bool :=
  e.signer = signer && e.nonce = nonce

theorem isAt_iff {signer : AccountId} {nonce : Nonce} {e : PoolEntry} :
    isAt signer nonce e = true ↔ e.signer = signer ∧ e.nonce = nonce := by
  unfold isAt
  rw [Bool.and_eq_true, decide_eq_true_eq, decide_eq_true_eq]

/-- The transactions of an account that are next, one after the other from a nonce on, and the
ones that wait on. -/
def due (signer : AccountId) (next : Nonce) (future : List PoolEntry) :
    List PoolEntry × List PoolEntry :=
  match _found : future.find? (isAt signer next) with
  | none => ([], future)
  | some e =>
    let others := due signer (next + 1) (future.eraseP (isAt signer next))
    (e :: others.1, others.2)
termination_by future.length
decreasing_by
  have := List.length_eraseP_of_mem (List.mem_of_find?_eq_some _found) (List.find?_some _found)
  have := List.length_pos_of_mem (List.mem_of_find?_eq_some _found)
  omega

section Due

variable {signer : AccountId} {next : Nonce} {future : List PoolEntry}

theorem due_of_none (h : future.find? (isAt signer next) = none) :
    due signer next future = ([], future) := by
  rw [due]
  split
  · rfl
  · next found => cases h.symm.trans found

theorem due_of_some {e : PoolEntry} (h : future.find? (isAt signer next) = some e) :
    due signer next future =
      let others := due signer (next + 1) (future.eraseP (isAt signer next))
      (e :: others.1, others.2) := by
  rw [due]
  split
  · next found => cases h.symm.trans found
  · next found => cases h.symm.trans found; rfl

theorem due_eq_nil (h : ∀ e ∈ future, e.signer = signer → e.nonce ≠ next) :
    due signer next future = ([], future) := by
  refine due_of_none (List.find?_eq_none.2 fun e he hat => ?_)
  obtain ⟨hsigner, hnonce⟩ := isAt_iff.1 hat
  exact h e he hsigner hnonce

theorem perm_of_find?_eq_some {e : PoolEntry} (h : future.find? (isAt signer next) = some e) :
    future.Perm (e :: future.eraseP (isAt signer next)) := by
  obtain ⟨hat, before, after, rfl, hbefore⟩ := List.find?_eq_some_iff_append.1 h
  have hnot : ∀ x ∈ before, ¬isAt signer next x = true := fun x hx => by
    simpa only [Bool.not_eq_true', Bool.not_eq_true] using hbefore x hx
  rw [List.eraseP_append_right _ hnot, List.eraseP_cons_of_pos hat]
  exact List.perm_middle

/-- Nothing is lost: what is picked and what is left make up what was waiting. -/
theorem due_perm (signer : AccountId) (next : Nonce) (future : List PoolEntry) :
    future.Perm ((due signer next future).1 ++ (due signer next future).2) := by
  induction next, future using due.induct signer with
  | case1 next future hnone =>
    rw [due_of_none hnone]
    exact List.Perm.refl _
  | case2 next future e hsome ih =>
    rw [due_of_some hsome]
    exact (perm_of_find?_eq_some hsome).trans (ih.cons e)

theorem due_signer (signer : AccountId) (next : Nonce) (future : List PoolEntry) :
    ∀ e ∈ (due signer next future).1, e.signer = signer := by
  induction next, future using due.induct signer with
  | case1 next future hnone =>
    rw [due_of_none hnone]
    exact nofun
  | case2 next future e hsome ih =>
    rw [due_of_some hsome]
    exact List.forall_mem_cons.2 ⟨(isAt_iff.1 (List.find?_some hsome)).1, ih⟩

theorem due_sublist (signer : AccountId) (next : Nonce) (future : List PoolEntry) :
    (due signer next future).2.Sublist future := by
  induction next, future using due.induct signer with
  | case1 next future hnone => exact (due_of_none hnone).symm ▸ List.Sublist.refl future
  | case2 next future e hsome ih =>
    rw [due_of_some hsome]
    exact ih.trans List.eraseP_sublist

theorem find?_filter_isAt (signer : AccountId) (next : Nonce) (future : List PoolEntry) :
    (future.filter (·.signer = signer)).find? (isAt signer next) =
      future.find? (isAt signer next) := by
  rw [List.find?_filter]
  refine congrArg (List.find? · future) (funext fun e => ?_)
  rw [Bool.eq_iff_iff, decide_eq_true_eq, decide_eq_true_eq, isAt_iff]
  exact ⟨And.right, fun h => ⟨h.1, h⟩⟩

theorem eraseP_filter_isAt (signer : AccountId) (next : Nonce) (future : List PoolEntry) :
    (future.filter (·.signer = signer)).eraseP (isAt signer next) =
      (future.eraseP (isAt signer next)).filter (·.signer = signer) := by
  rw [List.eraseP_filter]
  refine congrArg (fun p => (future.eraseP p).filter _) (funext fun e => ?_)
  rw [Bool.eq_iff_iff, Bool.and_eq_true, decide_eq_true_eq, isAt_iff]
  exact ⟨And.left, fun h => ⟨h, h.1⟩⟩

/-- Who is next among all that wait is next among those of the account. -/
theorem due_filter (signer : AccountId) (next : Nonce) (future : List PoolEntry) :
    (due signer next (future.filter (·.signer = signer))).1 = (due signer next future).1 := by
  induction next, future using due.induct signer with
  | case1 next future hnone =>
    rw [due_of_none hnone, due_of_none ((find?_filter_isAt signer next future).trans hnone)]
  | case2 next future e hsome ih =>
    rw [due_of_some hsome, due_of_some ((find?_filter_isAt signer next future).trans hsome),
      eraseP_filter_isAt]
    exact congrArg (e :: ·) ih

/-- The entries are not two transactions of one account at one nonce. -/
def Apart (e f : PoolEntry) : Prop := e.signer = f.signer → e.nonce ≠ f.nonce

theorem Apart.symm {e f : PoolEntry} (h : Apart e f) : Apart f e := fun hsigner hnonce =>
  h hsigner.symm hnonce.symm

/-- What is picked from the waiting transactions of an account, from the nonce `first` on, and what is
left of them. -/
structure Promoted (signer : AccountId) (first : Nat) (future turn rest : List PoolEntry) :
    Prop where
  perm : future.Perm (turn ++ rest)
  sublist : rest.Sublist future
  signer_eq : ∀ e ∈ turn, e.signer = signer
  nonces : turn.map (·.nonce.toNat) = List.range' first turn.length
  complete : ∀ e ∈ rest, e.signer = signer → e.nonce.toNat ≠ first + turn.length

theorem promoted_due {first : Nat} (hnext : next = UInt32.ofNat first)
    (apart : future.Pairwise Apart)
    (from_first : ∀ e ∈ future, e.signer = signer → first ≤ e.nonce.toNat) :
    Promoted signer first future (due signer next future).1 (due signer next future).2 := by
  -- One step takes the first transaction at the next nonce; the rest is the same at the nonce after.
  induction next, future using due.induct signer generalizing first with
  | case1 next future hnone =>
    rw [due_of_none hnone]
    refine ⟨List.Perm.refl _, List.Sublist.refl _, (fun _ he => nomatch he), rfl, ?_⟩
    intro e he hsigner hnonce
    have hat := List.find?_eq_none.1 hnone e he
    have hsame : UInt32.ofNat e.nonce.toNat = next := by
      rw [hnext, hnonce, List.length_nil, Nat.add_zero]
    exact hat (isAt_iff.2 ⟨hsigner, UInt32.ofNat_toNat.symm.trans hsame⟩)
  | case2 next future e hsome ih =>
    obtain ⟨hsigner, hnonce⟩ := isAt_iff.1 (List.find?_some hsome)
    have hperm := perm_of_find?_eq_some hsome
    obtain ⟨hothers, hapart⟩ := List.pairwise_cons.1 ((hperm.pairwise_iff Apart.symm).1 apart)
    -- The next nonce is not below `first`, so it has not wrapped.
    have hfirst : e.nonce.toNat = first := by
      have hle := from_first e (List.mem_of_find?_eq_some hsome) hsigner
      rw [hnonce, hnext, UInt32.toNat_ofNat'] at hle ⊢
      exact Nat.le_antisymm (Nat.mod_le _ _) hle
    have hlater : ∀ f ∈ future.eraseP (isAt signer next), f.signer = signer →
        first + 1 ≤ f.nonce.toNat := by
      intro f hf hf_signer
      have hne : f.nonce.toNat ≠ first := fun heq =>
        hothers f hf (hsigner.trans hf_signer.symm) (UInt32.toNat_inj.1 (hfirst.trans heq.symm))
      have hle := from_first f (List.mem_of_mem_eraseP hf) hf_signer
      omega
    have hrest := ih (by rw [hnext, UInt32.ofNat_add]; rfl) hapart hlater
    refine ⟨due_perm signer next future, due_sublist signer next future,
      due_signer signer next future, ?_, ?_⟩ <;> rw [due_of_some hsome]
    · rw [List.map_cons, List.length_cons, List.range'_succ, hrest.nonces, hfirst]
    · intro x hx hxs
      have := hrest.complete x hx hxs
      rw [List.length_cons]
      omega

end Due

section Promoted

variable {signer : AccountId} {first : Nat} {future turn rest : List PoolEntry}

theorem Promoted.countP_turn (h : Promoted signer first future turn rest) (a : AccountId) :
    turn.countP (·.signer = a) = if a = signer then turn.length else 0 := by
  split
  · next same =>
    subst same
    exact countP_signer_eq_length h.signer_eq
  · next different =>
    exact countP_signer_eq_zero fun e he hsame => different (hsame.symm.trans (h.signer_eq e he))

theorem Promoted.filter_turn (h : Promoted signer first future turn rest) (a : AccountId) :
    turn.filter (·.signer = a) = if a = signer then turn else [] := by
  split
  · next same =>
    subst same
    exact filter_signer_eq_self h.signer_eq
  · next different =>
    exact filter_signer_eq_nil fun e he hsame => different (hsame.symm.trans (h.signer_eq e he))

/-- A transaction that is left behind, though its nonce is not too low, comes after the gap. -/
theorem Promoted.lt_nonce (h : Promoted signer first future turn rest)
    (apart : (turn ++ rest).Pairwise Apart) {e : PoolEntry} (he : e ∈ rest)
    (hsigner : e.signer = signer) (hlow : first ≤ e.nonce.toNat) :
    first + turn.length < e.nonce.toNat := by
  rcases Nat.lt_or_ge (first + turn.length) e.nonce.toNat with hlt | hge
  · exact hlt
  · have hne := h.complete e he hsigner
    have hmem : e.nonce.toNat ∈ turn.map (·.nonce.toNat) := by
      rw [h.nonces, List.mem_range'_1]
      omega
    obtain ⟨t, ht, hnonce⟩ := List.mem_map.1 hmem
    have hapart := (List.pairwise_append.1 apart).2.2 t ht e he
    exact absurd (UInt32.toNat_inj.1 hnonce) (hapart ((h.signer_eq t ht).trans hsigner.symm))

end Promoted

/-! ## The two queues -/

theorem readyCount_append (ready turn : List PoolEntry) (signer : AccountId) :
    readyCount (ready ++ turn) signer = readyCount ready signer + readyCount turn signer := by
  unfold readyCount
  rw [List.countP_append, UInt32.ofNat_add]

theorem expectedNonce_append_self (r : Rules) (best : Entries) (ready : List PoolEntry)
    {e : PoolEntry} {signer : AccountId} (h : e.signer = signer) :
    expectedNonce r best (ready ++ [e]) signer = expectedNonce r best ready signer + 1 := by
  have hone : readyCount [e] signer = 1 := by
    simp only [readyCount, List.countP_cons, List.countP_nil, h, decide_true, if_true]
    rfl
  rw [expectedNonce, expectedNonce, readyCount_append, hone, UInt32.add_assoc]

/-- Promotion appends what is due, and leaves the rest. -/
theorem promoteInto_eq_due (r : Rules) (best : Entries) (signer : AccountId)
    (ready future : List PoolEntry) :
    promoteInto r best signer ready future =
      (ready ++ (due signer (expectedNonce r best ready signer) future).1,
        (due signer (expectedNonce r best ready signer) future).2) := by
  induction ready, future using promoteInto.induct r best signer with
  | case1 ready future hnone =>
    have hdue : future.find? (isAt signer (expectedNonce r best ready signer)) = none := hnone
    rw [due_of_none hdue, promoteInto]
    split
    · rw [List.append_nil]
    · next found => cases hnone.symm.trans found
  | case2 ready future e hsome ih =>
    have hdue : future.find? (isAt signer (expectedNonce r best ready signer)) = some e := hsome
    have hsigner : e.signer = signer := (isAt_iff.1 (List.find?_some hdue)).1
    rw [due_of_some hdue, promoteInto]
    split
    · next found => cases hsome.symm.trans found
    · next found =>
      cases hsome.symm.trans found
      rw [ih, expectedNonce_append_self r best ready hsigner, List.append_assoc]
      rfl

theorem promote_eq (r : Rules) (signer : AccountId) (s : State) :
    s.promote r signer =
      let picked := due signer (expectedNonce r s.best s.ready signer) s.future
      { s with ready := s.ready ++ picked.1, future := picked.2 } := by
  unfold promote
  rw [promoteInto_eq_due]

@[simp] theorem promote_best (r : Rules) (signer : AccountId) (s : State) :
    (s.promote r signer).best = s.best := rfl

@[simp] theorem promote_events (r : Rules) (signer : AccountId) (s : State) :
    (s.promote r signer).events = s.events := rfl

@[simp] theorem promote_closed (r : Rules) (signer : AccountId) (s : State) :
    (s.promote r signer).closed = s.closed := rfl

/-- Promotion moves transactions from one queue to the other. -/
theorem promote_perm (r : Rules) (signer : AccountId) (s : State) :
    ((s.promote r signer).ready ++ (s.promote r signer).future).Perm (s.ready ++ s.future) := by
  rw [promote_eq, List.append_assoc]
  exact (due_perm signer _ s.future).symm.append_left s.ready

theorem foldl_promote_perm (r : Rules) (signers : List AccountId) (s : State) :
    ((signers.foldl (fun s signer => s.promote r signer) s).ready ++
      (signers.foldl (fun s signer => s.promote r signer) s).future).Perm (s.ready ++ s.future) := by
  induction signers generalizing s with
  | nil => exact List.Perm.refl _
  | cons signer rest ih => exact (ih _).trans (promote_perm r signer s)

theorem foldl_promote_eq {α : Type} (r : Rules) (field : State → α)
    (h : ∀ s signer, field (promote r signer s) = field s) (signers : List AccountId) (s : State) :
    field (signers.foldl (fun s signer => s.promote r signer) s) = field s := by
  induction signers generalizing s with
  | nil => rfl
  | cons signer rest ih => rw [List.foldl_cons, ih, h]

/-- No waiting transaction has its turn. -/
def NoneDue (r : Rules) (s : State) : Prop :=
  ∀ e ∈ s.future, e.nonce ≠ expectedNonce r s.best s.ready e.signer

theorem NoneDue.promote_eq_self {r : Rules} {s : State} (h : s.NoneDue r) (signer : AccountId) :
    s.promote r signer = s := by
  have hnil : due signer (expectedNonce r s.best s.ready signer) s.future = ([], s.future) :=
    due_eq_nil fun e he hsigner => hsigner ▸ h e he
  rw [promote_eq, hnil]
  simp only [List.append_nil]

theorem NoneDue.foldl_promote {r : Rules} {s : State} (h : s.NoneDue r)
    (signers : List AccountId) : signers.foldl (fun s signer => s.promote r signer) s = s := by
  induction signers with
  | nil => rfl
  | cons signer rest ih => rw [List.foldl_cons, h.promote_eq_self, ih]

/-! ## Arrivals -/

/-- What an accepted transaction adds to the ready ones, itself included, and what waits on, where
`next` is the nonce that the account's next ready one carries. -/
def arrival (next : Nonce) (future : List PoolEntry) (entry : PoolEntry) :
    Placement → List PoolEntry × List PoolEntry
  | .ready =>
    let others := due entry.signer (next + 1) future
    (entry :: others.1, others.2)
  | .future => ([], future ++ [entry])

theorem enqueue_eq (r : Rules) (entry : PoolEntry) (s : State) (placement : Placement) :
    s.enqueue r entry placement =
      let added := arrival (expectedNonce r s.best s.ready entry.signer) s.future entry placement
      { s with ready := s.ready ++ added.1, future := added.2 } := by
  cases placement with
  | ready =>
    unfold enqueue arrival
    rw [promote_eq, expectedNonce_append_self r s.best s.ready rfl]
    simp only [List.append_assoc, List.singleton_append]
  | future => simp only [enqueue, arrival, List.append_nil]

/-- Wherever a transaction is put, and whoever is promoted then, it comes in addition. -/
theorem arrival_perm (next : Nonce) (future : List PoolEntry) (entry : PoolEntry)
    (placement : Placement) :
    ((arrival next future entry placement).1 ++ (arrival next future entry placement).2).Perm
      (future ++ [entry]) := by
  cases placement with
  | ready =>
    have hdue := (due_perm entry.signer (next + 1) future).symm.cons entry
    exact hdue.trans (List.perm_append_singleton entry future).symm
  | future => exact List.Perm.refl _

theorem arrival_signer (next : Nonce) (future : List PoolEntry) (entry : PoolEntry)
    (placement : Placement) :
    ∀ e ∈ (arrival next future entry placement).1, e.signer = entry.signer := by
  cases placement with
  | ready => exact List.forall_mem_cons.2 ⟨rfl, due_signer _ _ _⟩
  | future => exact nofun

/-- Of its own account, an arrival leaves waiting what it does not bring along. -/
theorem arrival_perm_of_signer (next : Nonce) (future : List PoolEntry) (entry : PoolEntry)
    (placement : Placement) :
    ((arrival next future entry placement).1 ++
        (arrival next future entry placement).2.filter (·.signer = entry.signer)).Perm
      (future.filter (·.signer = entry.signer) ++ [entry]) := by
  have hperm := (arrival_perm next future entry placement).filter (·.signer = entry.signer)
  have hturn : (arrival next future entry placement).1.filter (·.signer = entry.signer) =
      (arrival next future entry placement).1 :=
    filter_signer_eq_self (arrival_signer next future entry placement)
  have hentry : [entry].filter (·.signer = entry.signer) = [entry] := by simp
  rwa [List.filter_append, List.filter_append, hturn, hentry] at hperm

/-- Nobody else is brought along. -/
theorem arrival_filter_of_ne (next : Nonce) (future : List PoolEntry) (entry : PoolEntry)
    (placement : Placement) {a : AccountId} (h : entry.signer ≠ a) :
    (arrival next future entry placement).2.filter (·.signer = a) =
      future.filter (·.signer = a) := by
  cases placement with
  | ready =>
    have hnone : (due entry.signer (next + 1) future).1.filter (·.signer = a) = [] :=
      filter_signer_eq_nil fun e he hsame => h ((due_signer _ _ _ e he).symm.trans hsame)
    have hperm := (due_perm entry.signer (next + 1) future).filter (·.signer = a)
    rw [List.filter_append, hnone, List.nil_append] at hperm
    exact ((due_sublist entry.signer (next + 1) future).filter _).eq_of_length hperm.length_eq.symm
  | future =>
    have hnone : [entry].filter (·.signer = a) = [] := by simp [h]
    show (future ++ [entry]).filter (·.signer = a) = _
    rw [List.filter_append, hnone, List.append_nil]

/-- What an arrival brings along hangs on what waits of its own account. -/
theorem arrival_congr (next : Nonce) {future others : List PoolEntry} (entry : PoolEntry)
    (h : future.filter (·.signer = entry.signer) = others.filter (·.signer = entry.signer))
    (placement : Placement) :
    (arrival next future entry placement).1 = (arrival next others entry placement).1 := by
  cases placement with
  | ready =>
    show entry :: (due _ _ future).1 = entry :: (due _ _ others).1
    rw [← due_filter _ _ future, ← due_filter _ _ others, h]
  | future => rfl

end MetaLedger.Ledger.State
