import MetaLedger.Proofs.Ledger.Run

/-!
# The order of the pool

The ready transactions of an account carry the nonces that follow its executed ones, without a gap, and
those that wait carry later ones (`Lined`). Between operations they wait behind a gap (`Orderly`): this
fails for one account between the arrival of the transaction that it waited for and the promotion that
follows.

This asks for nothing but itself. The account nonces may stand anywhere and any number of
transactions may come: what could wrap is beyond the largest nonce, and no transaction waits there. A
block moves the account's nonce past its ready transactions and takes these out, so the nonce that is
next stays the same, unless it is beyond the largest one (`nextNonce_withBlock`), and the promotion
that ends sealing finds no one (`Orderly.sealBlock_eq`).
-/

namespace MetaLedger.Ledger.State

variable {r : Rules} {s : State}

/-- The nonce after those of an account's executed and ready transactions, as a number. -/
def nextNonce (r : Rules) (s : State) (a : AccountId) : Nat :=
  (r.nonce s.best a).toNat + s.ready.countP (·.signer = a)

theorem expectedNonce_eq (r : Rules) (s : State) (a : AccountId) :
    expectedNonce r s.best s.ready a = UInt32.ofNat (nextNonce r s a) := by
  unfold expectedNonce readyCount nextNonce
  rw [UInt32.ofNat_add, UInt32.ofNat_toNat]

/-- As long as nothing wraps, the nonce that is expected is the one that is next. -/
theorem toNat_expectedNonce {a : AccountId} (h : nextNonce r s a < UInt32.size) :
    (expectedNonce r s.best s.ready a).toNat = nextNonce r s a := by
  rw [expectedNonce_eq]
  exact UInt32.toNat_ofNat_of_lt' h

theorem pairwise_apart {entries : List PoolEntry}
    (h : ∀ a, ((entries.filter (·.signer = a)).map (·.nonce.toNat)).Nodup) :
    entries.Pairwise Apart := by
  induction entries with
  | nil => exact .nil
  | cons e rest ih =>
    refine List.pairwise_cons.2 ⟨?_, ih fun a => ?_⟩
    · intro f hf hsigner hnonce
      have hdistinct := h e.signer
      simp only [List.filter_cons, decide_true, if_true, List.map_cons, List.nodup_cons] at hdistinct
      refine hdistinct.1 (List.mem_map.2 ⟨f, List.mem_filter.2 ⟨hf, ?_⟩, ?_⟩)
      · exact decide_eq_true hsigner.symm
      · rw [hnonce]
    · exact (h a).sublist (((List.sublist_cons_self e rest).filter _).map _)

/-- All that wait for an earlier nonce wait for one that has not come. -/
def AllAhead (r : Rules) (s : State) : Prop :=
  ∀ e ∈ s.future, nextNonce r s e.signer < e.nonce.toNat

/-- The transactions of an account line up behind its nonce. -/
structure Lined (r : Rules) (s : State) : Prop where
  apart : (s.ready ++ s.future).Pairwise Apart
  ready_nonces : ∀ a, (s.ready.filter (·.signer = a)).map (·.nonce.toNat) =
    List.range' (r.nonce s.best a).toNat (s.ready.countP (·.signer = a))
  from_next : ∀ e ∈ s.future, nextNonce r s e.signer ≤ e.nonce.toNat

/-- The order of the pool between operations: no two transactions share account and nonce, the ready
ones of an account carry the nonces from its own on, and the others later ones, behind a gap. -/
structure Orderly (r : Rules) (s : State) : Prop where
  apart : (s.ready ++ s.future).Pairwise Apart
  ready_nonces : ∀ a, (s.ready.filter (·.signer = a)).map (·.nonce.toNat) =
    List.range' (r.nonce s.best a).toNat (s.ready.countP (·.signer = a))
  ahead : AllAhead r s

theorem Orderly.lined (h : Orderly r s) : Lined r s :=
  ⟨h.apart, h.ready_nonces, fun e he => Nat.le_of_lt (h.ahead e he)⟩

/-- The nonces of an account's ready transactions are those below the next one that are not used. -/
theorem Lined.exists_ready_iff (h : Lined r s) (a : AccountId) (nonce : Nonce) :
    (∃ e ∈ s.ready, e.signer = a ∧ e.nonce = nonce) ↔
      (r.nonce s.best a).toNat ≤ nonce.toNat ∧ nonce.toNat < nextNonce r s a := by
  have hmem : nonce.toNat ∈ (s.ready.filter (·.signer = a)).map (·.nonce.toNat) ↔
      (r.nonce s.best a).toNat ≤ nonce.toNat ∧ nonce.toNat < nextNonce r s a := by
    rw [h.ready_nonces, List.mem_range'_1]
    exact Iff.rfl
  rw [← hmem]
  constructor
  · rintro ⟨e, he, hsigner, hnonce⟩
    exact List.mem_map.2 ⟨e, List.mem_filter.2 ⟨he, decide_eq_true hsigner⟩, by rw [hnonce]⟩
  · intro hnonces
    obtain ⟨e, he, hnonce⟩ := List.mem_map.1 hnonces
    obtain ⟨hready, hsigner⟩ := List.mem_filter.1 he
    exact ⟨e, hready, of_decide_eq_true hsigner, UInt32.toNat_inj.1 hnonce⟩

/-- A nonce that is neither used nor taken by a ready transaction is the next one or a later one. -/
theorem Lined.nextNonce_le (h : Lined r s) {a : AccountId} {nonce : Nonce}
    (fresh : ∀ e ∈ s.ready, e.signer = a → e.nonce ≠ nonce)
    (unused : (r.nonce s.best a).toNat ≤ nonce.toNat) : nextNonce r s a ≤ nonce.toNat := by
  refine Nat.not_lt.1 fun hlt => ?_
  obtain ⟨e, he, hsigner, hnonce⟩ := (h.exists_ready_iff a nonce).2 ⟨unused, hlt⟩
  exact fresh e he hsigner hnonce

/-- A nonce that finds a place is the next one, or not far ahead. -/
theorem Lined.placed (h : Lined r s) {a : AccountId} {nonce : Nonce} {placement : Placement}
    (fresh : ∀ e ∈ s.ready, e.signer = a → e.nonce ≠ nonce)
    (unused : (r.nonce s.best a).toNat ≤ nonce.toNat)
    (hplace : place (expectedNonce r s.best s.ready a) nonce = .ok placement) :
    placement = .ready ∧ nonce.toNat = nextNonce r s a ∨
    placement = .future ∧ nextNonce r s a < nonce.toNat ∧
      nonce.toNat ≤ nextNonce r s a + maxFutureGap := by
  have hle := h.nextNonce_le fresh unused
  have hnext : (expectedNonce r s.best s.ready a).toNat = nextNonce r s a :=
    toNat_expectedNonce (Nat.lt_of_le_of_lt hle nonce.toNat_lt_size)
  rcases place_cases hplace with ⟨rfl, hnonce⟩ | ⟨rfl, hnonce, hgap⟩
  · exact .inl ⟨rfl, by rw [hnonce, hnext]⟩
  · have hne : nonce.toNat ≠ nextNonce r s a := fun heq =>
      hnonce (UInt32.toNat_inj.1 (heq.trans hnext.symm))
    exact .inr ⟨rfl, by omega, by omega⟩

theorem AllAhead.noneDue (h : AllAhead r s) : s.NoneDue r := fun e he hnonce => by
  have hahead := h e he
  have hlt : nextNonce r s e.signer < UInt32.size := Nat.lt_trans hahead e.nonce.toNat_lt_size
  rw [hnonce, toNat_expectedNonce hlt] at hahead
  exact Nat.lt_irrefl _ hahead

/-! ## Promotion -/

section Promote

variable {signer : AccountId} {turn rest : List PoolEntry}

theorem Lined.exists_promoted (h : Lined r s) (signer : AccountId) :
    ∃ turn rest, s.promote r signer = { s with ready := s.ready ++ turn, future := rest } ∧
      Promoted signer (nextNonce r s signer) s.future turn rest :=
  ⟨_, _, promote_eq r signer s, promoted_due (expectedNonce_eq r s signer)
    (List.pairwise_append.1 h.apart).2.1 fun e he hsigner => hsigner ▸ h.from_next e he⟩

theorem nextNonce_promoted (hp : Promoted signer (nextNonce r s signer) s.future turn rest)
    (a : AccountId) :
    nextNonce r { s with ready := s.ready ++ turn, future := rest } a =
      nextNonce r s a + if a = signer then turn.length else 0 := by
  unfold nextNonce
  rw [List.countP_append, hp.countP_turn, Nat.add_assoc]

theorem Lined.apart_promoted (h : Lined r s)
    (hp : Promoted signer (nextNonce r s signer) s.future turn rest) :
    (s.ready ++ turn ++ rest).Pairwise Apart := by
  rw [List.append_assoc]
  exact ((hp.perm.append_left s.ready).pairwise_iff Apart.symm).1 h.apart

/-- An account's transactions that are left behind wait behind a gap. -/
theorem Lined.lt_nonce_of_left (h : Lined r s)
    (hp : Promoted signer (nextNonce r s signer) s.future turn rest) {e : PoolEntry} (he : e ∈ rest)
    (hsigner : e.signer = signer) : nextNonce r s signer + turn.length < e.nonce.toNat := by
  have hlow := h.from_next e (hp.sublist.subset he)
  have hapart := h.apart_promoted hp
  rw [hsigner] at hlow
  rw [List.append_assoc] at hapart
  exact hp.lt_nonce (hapart.sublist (List.sublist_append_right _ _)) he hsigner hlow

theorem Lined.promoted (h : Lined r s)
    (hp : Promoted signer (nextNonce r s signer) s.future turn rest) :
    Lined r { s with ready := s.ready ++ turn, future := rest } where
  apart := h.apart_promoted hp
  ready_nonces a := by
    rw [List.filter_append, List.map_append, h.ready_nonces, hp.filter_turn, List.countP_append,
      hp.countP_turn]
    split
    · next same =>
      subst same
      rw [hp.nonces]
      exact List.range'_append_1 ..
    · exact List.append_nil _
  from_next e he := by
    rw [nextNonce_promoted hp]
    split
    · next same => exact same ▸ Nat.le_of_lt (h.lt_nonce_of_left hp he same)
    · exact h.from_next e (hp.sublist.subset he)

/-- Promotion leaves an account's transactions waiting only behind a gap. -/
theorem Lined.allAhead_promoted (h : Lined r s)
    (hp : Promoted signer (nextNonce r s signer) s.future turn rest)
    (others : ∀ e ∈ s.future, e.signer ≠ signer → nextNonce r s e.signer < e.nonce.toNat) :
    AllAhead r { s with ready := s.ready ++ turn, future := rest } := fun e he => by
  rw [nextNonce_promoted hp]
  split
  · next same => exact same ▸ h.lt_nonce_of_left hp he same
  · next different => exact others e (hp.sublist.subset he) different

end Promote

/-! ## Acceptance -/

section Accept

variable {entry : PoolEntry}

theorem Lined.apart_append (h : Lined r s) (fresh : ∀ e ∈ s.ready ++ s.future, Apart e entry) :
    (s.ready ++ s.future ++ [entry]).Pairwise Apart := by
  refine List.pairwise_append.2 ⟨h.apart, List.pairwise_singleton _ _, fun e he x hx => ?_⟩
  rw [List.mem_singleton.1 hx]
  exact fresh e he

theorem nextNonce_push (entry : PoolEntry) (a : AccountId) :
    nextNonce r { s with ready := s.ready ++ [entry] } a =
      nextNonce r s a + if entry.signer = a then 1 else 0 := by
  unfold nextNonce
  rw [List.countP_append, List.countP_singleton, Nat.add_assoc]
  simp only [decide_eq_true_eq]

/-- The transaction that is next joins the ready ones. Those of its account that wait may be next
now. -/
theorem Orderly.push_ready (h : Orderly r s) (fresh : ∀ e ∈ s.ready ++ s.future, Apart e entry)
    (hnonce : entry.nonce.toNat = nextNonce r s entry.signer) :
    Lined r { s with ready := s.ready ++ [entry] } where
  apart := by
    have hall := h.lined.apart_append fresh
    have hperm : (s.ready ++ s.future ++ [entry]).Perm (s.ready ++ [entry] ++ s.future) := by
      rw [List.append_assoc, List.append_assoc]
      exact List.perm_append_comm.append_left s.ready
    exact (hperm.pairwise_iff Apart.symm).1 hall
  ready_nonces a := by
    rw [List.filter_append, List.map_append, h.ready_nonces, List.countP_append,
      List.countP_singleton, List.filter_cons, List.filter_nil]
    by_cases same : entry.signer = a
    · subst same
      simp only [decide_true, if_true, List.map_cons, List.map_nil, hnonce]
      exact List.range'_1_concat.symm
    · simp only [same, decide_false, Bool.false_eq_true, if_false, List.map_nil,
        List.append_nil, Nat.add_zero]
  from_next e he := by
    have hahead := h.ahead e he
    rw [nextNonce_push]
    split <;> omega

/-- A transaction behind a gap joins those that wait. -/
theorem Orderly.push_future (h : Orderly r s) (fresh : ∀ e ∈ s.ready ++ s.future, Apart e entry)
    (hlow : nextNonce r s entry.signer < entry.nonce.toNat) :
    Orderly r { s with future := s.future ++ [entry] } where
  apart := by
    have hall := h.lined.apart_append fresh
    rw [List.append_assoc] at hall
    exact hall
  ready_nonces := h.ready_nonces
  ahead e he := by
    rcases List.mem_append.1 he with he | he
    · exact h.ahead e he
    · rw [List.mem_singleton.1 he]
      exact hlow

/-- What an arrival adds to the ready transactions carries the nonces from the next one on. -/
theorem Orderly.arrival_nonces (h : Orderly r s) (entry : PoolEntry) {placement : Placement}
    (fresh : ∀ e ∈ s.ready, e.signer = entry.signer → e.nonce ≠ entry.nonce)
    (unused : (r.nonce s.best entry.signer).toNat ≤ entry.nonce.toNat)
    (hplace : place (expectedNonce r s.best s.ready entry.signer) entry.nonce = .ok placement) :
    let turn := (arrival (expectedNonce r s.best s.ready entry.signer) s.future entry placement).1
    turn.map (·.nonce.toNat) = List.range' (nextNonce r s entry.signer) turn.length := by
  rcases h.lined.placed fresh unused hplace with ⟨rfl, hnonce⟩ | ⟨rfl, -, -⟩
  · have hnext : expectedNonce r s.best s.ready entry.signer + 1 =
        UInt32.ofNat (nextNonce r s entry.signer + 1) := by
      rw [expectedNonce_eq, UInt32.ofNat_add]
      rfl
    have hlater : ∀ e ∈ s.future, e.signer = entry.signer →
        nextNonce r s entry.signer + 1 ≤ e.nonce.toNat := fun e he hsigner => hsigner ▸ h.ahead e he
    have hdue := promoted_due hnext (List.pairwise_append.1 h.apart).2.1 hlater
    simp only [arrival, List.map_cons, List.length_cons, List.range'_succ, hnonce, hdue.nonces]
  · rfl

end Accept

/-! ## Blocks -/

section Blocks

variable (disjoint : r.keys.Disjoint)

include disjoint in
/-- A block moves an account's nonce past its ready transactions, which leave the queue. The largest
nonce is not passed. -/
theorem nextNonce_withBlock (s : State) (a : AccountId) :
    nextNonce r (s.withBlock r) a = min (nextNonce r s a) (UInt32.size - 1) := by
  unfold nextNonce
  rw [withBlock_best, withBlock_ready, List.countP_nil, Nat.add_zero]
  exact Rules.toNat_nonce_executeAll_eq_min disjoint s.best s.ready a

include disjoint in
theorem Orderly.withBlock (h : Orderly r s) : Orderly r (s.withBlock r) where
  apart := by
    rw [withBlock_ready, withBlock_future]
    exact h.apart.sublist (List.sublist_append_right _ _)
  ready_nonces a := by
    rw [withBlock_ready]
    rfl
  ahead e he := by
    rw [withBlock_future] at he
    rw [nextNonce_withBlock disjoint]
    exact Nat.lt_of_le_of_lt (Nat.min_le_left _ _) (h.ahead e he)

include disjoint in
/-- The promotion that ends sealing finds no one. -/
theorem Orderly.sealBlock_eq (h : Orderly r s) : s.sealBlock r = s.withBlock r :=
  (h.withBlock disjoint).ahead.noneDue.sealBlock_eq

end Blocks

/-! ## Operations -/

namespace Orderly

theorem congr {t : State} (h : Orderly r s) (hbest : t.best = s.best)
    (hready : t.ready = s.ready) (hfuture : t.future = s.future) : Orderly r t := by
  obtain ⟨hapart, hnonces, hahead⟩ := h
  unfold AllAhead nextNonce at hahead
  refine ⟨?_, ?_, ?_⟩
  · rwa [hready, hfuture]
  · rwa [hready, hbest]
  · unfold AllAhead nextNonce
    rwa [hready, hbest, hfuture]

theorem initial (r : Rules) : Orderly r (State.initial r) :=
  ⟨.nil, fun _ => rfl, fun _ he => (nomatch he)⟩

/-- A transaction that has been checked finds its place. -/
theorem enqueue (h : Orderly r s) {entry : PoolEntry} {placement : Placement}
    (fresh : ∀ e ∈ s.ready ++ s.future, Apart e entry)
    (unused : (r.nonce s.best entry.signer).toNat ≤ entry.nonce.toNat)
    (hplace : place (expectedNonce r s.best s.ready entry.signer) entry.nonce = .ok placement) :
    Orderly r (s.enqueue r entry placement) := by
  have hfresh : ∀ e ∈ s.ready, e.signer = entry.signer → e.nonce ≠ entry.nonce := fun e he =>
    fresh e (List.mem_append_left _ he)
  rcases h.lined.placed hfresh unused hplace with ⟨rfl, hnonce⟩ | ⟨rfl, hlow, -⟩
  · have hpush := h.push_ready fresh hnonce
    obtain ⟨turn, rest, heq, hp⟩ := hpush.exists_promoted entry.signer
    have hlined := hpush.promoted hp
    show Orderly r (State.promote r entry.signer { s with ready := s.ready ++ [entry] })
    rw [heq]
    refine ⟨hlined.apart, hlined.ready_nonces, hpush.allAhead_promoted hp fun e he hother => ?_⟩
    rw [nextNonce_push, if_neg (Ne.symm hother)]
    exact h.ahead e he
  · exact h.push_future fresh hlow

theorem accept (h : Orderly r s) {x : Extrinsic} {call : Call} {placement : Placement}
    (hvalid : s.Valid r x call placement) (watched : Bool) :
    Orderly r (s.accept r x watched call placement) := by
  obtain ⟨t, hbest, hready, hfuture, -, -, -, heq⟩ := accept_eq_enqueue r x watched call placement s
  rw [heq]
  refine (h.congr hbest hready hfuture).enqueue ?_ ?_ ?_
  · intro e he hsigner
    rw [hready, hfuture] at he
    exact isPending_eq_false_iff.1 hvalid.not_pending e he hsigner
  · rw [hbest]
    exact UInt32.le_iff_toNat_le.1 (UInt32.not_lt.1 hvalid.not_stale)
  · rw [hbest, hready]
    exact hvalid.place_eq

theorem fund (h : Orderly r s) (account : AccountId) (free : Amount) :
    Orderly r (s.fund r account free) := by
  refine ⟨h.apart, fun a => ?_, fun e he => ?_⟩
  · rw [nonce_fund]
    exact h.ready_nonces a
  · unfold nextNonce
    rw [nonce_fund]
    exact h.ahead e he

theorem close (h : Orderly r s) : Orderly r s.close := by
  unfold State.close
  split
  · exact h
  · exact ⟨.nil, fun _ => rfl, fun _ he => (nomatch he)⟩

variable (disjoint : r.keys.Disjoint)

include disjoint in
theorem sealBlock (h : Orderly r s) : Orderly r (s.sealBlock r) := by
  rw [h.sealBlock_eq disjoint]
  exact h.withBlock disjoint

include disjoint in
theorem step (h : Orderly r s) (op : Op) : Orderly r (s.step r op) :=
  preserved_step (P := Orderly r) (fun _ _ watched _ _ _ hvalid h => h.accept hvalid watched)
    (fun _ _ h => h.sealBlock disjoint) (fun _ account free h => h.fund account free)
    (fun _ h => h.close) h op

include disjoint in
theorem run (h : Orderly r s) (ops : List Op) : Orderly r (s.run r ops) :=
  preserved_run (fun _ op h => h.step disjoint op) h ops

end Orderly

/-! ## Instant mode -/

section Instant

variable (disjoint : r.keys.Disjoint) (instant : r.sealMode = .instant)

include disjoint instant

theorem Orderly.sealed_sealIfInstant (h : Orderly r s) : Sealed r s (s.sealIfInstant r) := by
  by_cases hready : s.ready = []
  · rw [sealIfInstant_of_empty hready]
    exact sealed_self hready
  · rw [sealIfInstant_of_ready instant hready, h.sealBlock_eq disjoint]
    exact sealed_withBlock r s

/-- Where blocks are sealed at once, no operation leaves a ready transaction behind. -/
theorem Orderly.ready_step (h : Orderly r s) (hready : s.ready = []) (op : Op) :
    (s.step r op).ready = [] := by
  cases op with
  | submit x watched =>
    show (s.submit r x watched).2.ready = []
    rcases submit_cases r x watched s with ⟨e, heq⟩ | ⟨call, placement, -, hvalid, heq⟩
    · rw [heq]
      exact hready
    · rw [heq]
      have hnext := h.accept (validate_eq_ok_iff.1 hvalid) watched
      exact (hnext.sealed_sealIfInstant disjoint instant).ready
  | block =>
    show (s.requestSeal r).2.ready = []
    cases hclosed : s.closed with
    | true =>
      rw [requestSeal_of_closed hclosed]
      exact hready
    | false => rw [requestSeal_of_open hclosed, h.sealBlock_eq disjoint, withBlock_ready]
  | fund account free => exact hready
  | close =>
    show s.close.ready = []
    unfold State.close
    split
    · exact hready
    · rfl

end Instant

end MetaLedger.Ledger.State
