import MetaLedger.Proofs.Ledger.Admission
import MetaLedger.Proofs.Ledger.Commitment
import MetaLedger.Proofs.Ledger.Succession
import MetaLedger.Proofs.Ledger.Watchers

/-!
# The order of arrival

An account with nothing in the pool sends up to 65 transactions at consecutive nonces from its own on.
Whatever order they come in, and wherever blocks are sealed meanwhile, each one is accepted: it is next,
or at most 64 nonces ahead (`Arrived.valid`). What is added to the queue always carries the first
nonces, in their order, and the rest of what has come is held (`Arrived.submit`). When all have come, no
one waits for an earlier nonce, so the queue is the one that comes of sending them in order
(`run_arrivalOrder`).
-/

namespace MetaLedger.Ledger.State

variable {r : Rules} {s t : State} {a : AccountId} {xs came : List Extrinsic}
  {added executed : List PoolEntry}

/-- Transactions of an account from its nonce on, all of which pass the other checks. -/
structure Batch (r : Rules) (s : State) (a : AccountId) (xs : List Extrinsic) : Prop where
  signer : ∀ x ∈ xs, x.signer = a
  nonces : xs.map (·.nonce.toNat) = List.range' (r.nonce s.best a).toNat xs.length
  checks : ∀ x ∈ xs, r.Checks x
  canPay : r.CanPay s.best a
  length_le : xs.length ≤ 65
  below : (r.nonce s.best a).toNat + xs.length < UInt32.size

namespace Batch

variable (h : Batch r s a xs)

include h

theorem nonces_nodup : (xs.map (·.nonce.toNat)).Nodup := by
  rw [h.nonces]
  exact List.nodup_range'

theorem nodup : xs.Nodup := h.nonces_nodup.of_map _

theorem eq_of_nonce {x y : Extrinsic} (hx : x ∈ xs) (hy : y ∈ xs) (hnonce : x.nonce = y.nonce) :
    x = y :=
  List.inj_on_of_nodup_map h.nonces_nodup hx hy (congrArg UInt32.toNat hnonce)

theorem mem_range {x : Extrinsic} (hx : x ∈ xs) :
    (r.nonce s.best a).toNat ≤ x.nonce.toNat ∧
      x.nonce.toNat < (r.nonce s.best a).toNat + xs.length := by
  have hmem : x.nonce.toNat ∈ xs.map (·.nonce.toNat) := List.mem_map_of_mem hx
  rw [h.nonces, List.mem_range'_1] at hmem
  exact hmem

end Batch

/-- Where a batch stands when `came` of it have come: `added` to the queue, from the first nonce on, or
held. -/
structure Arrived (r : Rules) (s : State) (a : AccountId) (came : List Extrinsic)
    (added executed : List PoolEntry) (t : State) : Prop where
  queued : Queued r s added executed t
  orderly : Orderly r t
  places : ((added ++ t.future.filter (·.signer = a)).map (·.extrinsic)).Perm came
  faithful : ∀ e ∈ added ++ t.future.filter (·.signer = a), e.Faithful r
  signer : ∀ e ∈ added, e.signer = a
  nonces : added.map (·.nonce.toNat) = List.range' (r.nonce s.best a).toNat added.length

namespace Arrived

theorem initial (horder : Orderly r s) (alone : ∀ e ∈ s.ready ++ s.future, e.signer ≠ a) :
    Arrived r s a [] [] [] s := by
  have hnone : s.future.filter (·.signer = a) = [] :=
    filter_signer_eq_nil fun e he => alone e (List.mem_append_right _ he)
  refine ⟨.refl r s, horder, ?_, ?_, nofun, rfl⟩ <;> rw [hnone]
  · exact List.Perm.refl _
  · exact nofun

section Step

variable (h : Arrived r s a came added executed t) (alone : ∀ e ∈ s.ready ++ s.future, e.signer ≠ a)

include h

theorem length_eq : added.length + (t.future.filter (·.signer = a)).length = came.length := by
  rw [← h.places.length_eq, List.length_map, List.length_append]

include alone

/-- The account has nothing in the pool but what has come. -/
theorem mem_of_pending {e : PoolEntry} (he : e ∈ t.ready ++ t.future) (hsigner : e.signer = a) :
    e ∈ added ++ t.future.filter (·.signer = a) := by
  rcases List.mem_append.1 he with he | he
  · have hqueue : e ∈ s.ready ++ added := h.queued.queue ▸ List.mem_append_right _ he
    rcases List.mem_append.1 hqueue with hbefore | hadded
    · exact absurd hsigner (alone e (List.mem_append_left _ hbefore))
    · exact List.mem_append_left _ hadded
  · exact List.mem_append_right _ (List.mem_filter.2 ⟨he, decide_eq_true hsigner⟩)

theorem nextNonce_eq (disjoint : r.keys.Disjoint)
    (few : (r.nonce s.best a).toNat + added.length < UInt32.size) :
    nextNonce r t a = (r.nonce s.best a).toNat + added.length := by
  have hstart : nextNonce r s a = (r.nonce s.best a).toNat := by
    have hnone : s.ready.countP (·.signer = a) = 0 :=
      countP_signer_eq_zero fun e he => alone e (List.mem_append_left _ he)
    rw [nextNonce, hnone, Nat.add_zero]
  have hnext := h.queued.nextNonce_eq disjoint a
  rw [hstart, countP_signer_eq_length h.signer] at hnext
  exact hnext few

omit alone in
/-- One more has come, and `turn` of those that have are added. -/
theorem add {u : State} {entry : PoolEntry} {turn more : List PoolEntry}
    (hqueued : Queued r s (added ++ turn) more u) (horder : Orderly r u)
    (hperm : (turn ++ u.future.filter (·.signer = a)).Perm (t.future.filter (·.signer = a) ++ [entry]))
    (hentry : entry.Faithful r) (hturn : ∀ e ∈ turn, e.signer = a)
    (hnonces : turn.map (·.nonce.toNat) =
      List.range' ((r.nonce s.best a).toNat + added.length) turn.length) :
    Arrived r s a (came ++ [entry.extrinsic]) (added ++ turn) more u := by
  have hplaces : (added ++ turn ++ u.future.filter (·.signer = a)).Perm
      (added ++ t.future.filter (·.signer = a) ++ [entry]) := by
    rw [List.append_assoc, List.append_assoc]
    exact hperm.append_left added
  refine ⟨hqueued, horder, ?_, ?_, ?_, ?_⟩
  · refine (hplaces.map _).trans ?_
    rw [List.map_append]
    exact h.places.append_right [entry.extrinsic]
  · intro e he
    rcases List.mem_append.1 (hplaces.mem_iff.1 he) with he | he
    · exact h.faithful e he
    · rw [List.mem_singleton.1 he]
      exact hentry
  · exact List.forall_mem_append.2 ⟨h.signer, hturn⟩
  · rw [List.map_append, h.nonces, hnonces, List.length_append]
    exact List.range'_append_1 ..

omit alone in
/-- A block changes nothing of this. -/
theorem block (disjoint : r.keys.Disjoint) (hopen : t.closed = false) :
    Arrived r s a came added (executed ++ t.executes r .block) (t.requestSeal r).2 := by
  obtain ⟨hqueued, hfuture, -⟩ := h.queued.block disjoint h.orderly hopen
  refine ⟨hqueued, h.orderly.step disjoint .block, ?_, ?_, h.signer, h.nonces⟩ <;> rw [hfuture]
  · exact h.places
  · exact h.faithful

end Step

section Batch

variable (separate : r.keys.Separate) (h : Arrived r s a came added executed t)
  (alone : ∀ e ∈ s.ready ++ s.future, e.signer ≠ a) (batch : Batch r s a xs)
  {x : Extrinsic} {rest : List Extrinsic} (hcame : (came ++ x :: rest).Perm xs)

include h batch hcame in
/-- The nonce of one that has not come is free. -/
theorem nonce_ne {e : PoolEntry} (he : e ∈ added ++ t.future.filter (·.signer = a)) :
    e.nonce ≠ x.nonce := by
  intro hnonce
  have hmem : e.extrinsic ∈ came := h.places.mem_iff.1 (List.mem_map_of_mem he)
  have hsame : e.extrinsic = x := batch.eq_of_nonce
    (hcame.mem_iff.1 (List.mem_append_left _ hmem))
    (hcame.mem_iff.1 (List.mem_append_right _ List.mem_cons_self)) hnonce
  have hnodup : (came ++ x :: rest).Nodup := hcame.nodup_iff.2 batch.nodup
  exact (List.nodup_append.1 hnodup).2.2 _ hmem _ List.mem_cons_self hsame

include separate h alone batch hcame in
/-- One that has not come is accepted. -/
theorem valid : ∃ call placement, t.Valid r x call placement := by
  have hx : x ∈ xs := hcame.mem_iff.1 (List.mem_append_right _ List.mem_cons_self)
  obtain ⟨hverify, hcall⟩ := batch.checks x hx
  obtain ⟨call, hcall⟩ := Option.isSome_iff_exists.1 hcall
  obtain ⟨hlow, hhigh⟩ := batch.mem_range hx
  have hsigner := batch.signer x hx
  have hlength := hcame.length_eq
  rw [List.length_append, List.length_cons] at hlength
  have hheld := h.length_eq
  have hbelow := batch.below
  have hle := batch.length_le
  have hnext := h.nextNonce_eq alone separate.disjoint (by omega)
  -- The nonces up to the next one are those of the ones that have been added.
  have hfree : nextNonce r t a ≤ x.nonce.toNat := by
    refine Nat.not_lt.1 fun hlt => ?_
    have hmem : x.nonce.toNat ∈ added.map (·.nonce.toNat) := by
      rw [h.nonces, List.mem_range'_1]
      omega
    obtain ⟨e, he, hnonce⟩ := List.mem_map.1 hmem
    exact h.nonce_ne batch hcame (List.mem_append_left _ he) (UInt32.toNat_inj.1 hnonce)
  have hexpected : (expectedNonce r t.best t.ready x.signer).toNat = nextNonce r t a := by
    rw [hsigner]
    exact toNat_expectedNonce (Nat.lt_of_le_of_lt hfree x.nonce.toNat_lt_size)
  obtain ⟨placement, hplace⟩ : ∃ placement,
      place (expectedNonce r t.best t.ready x.signer) x.nonce = .ok placement := by
    by_cases hsame : x.nonce = expectedNonce r t.best t.ready x.signer
    · exact ⟨.ready, if_pos hsame⟩
    · have hnear : ¬maxFutureGap <
          x.nonce.toNat - (expectedNonce r t.best t.ready x.signer).toNat := by
        unfold maxFutureGap
        omega
      exact ⟨.future, by rw [place, if_neg hsame, if_neg hnear]⟩
  refine ⟨call, placement, hverify, hcall, ?_, ?_, ?_, hplace⟩
  · rw [hsigner, h.queued.isUnfunded_eq separate]
    exact (canPay_iff a).1 batch.canPay
  · have hown : (r.nonce t.best a).toNat ≤ nextNonce r t a := Nat.le_add_right _ _
    rw [hsigner, UInt32.lt_iff_toNat_lt]
    omega
  · refine isPending_eq_false_iff.2 fun e he hsame => ?_
    exact h.nonce_ne batch hcame (h.mem_of_pending alone he (hsame.trans hsigner))

include separate h alone batch hcame in
/-- It is added with those that waited for it, or held itself. -/
theorem submit (hopen : t.closed = false) (watched : Bool) :
    (t.submit r x watched).1 = .ok x.hash ∧ ∃ added' executed',
      Arrived r s a (came ++ [x]) added' executed' (t.submit r x watched).2 := by
  obtain ⟨call, placement, hvalid⟩ := h.valid separate alone batch hcame
  obtain ⟨hqueued, hfuture⟩ := h.queued.submit separate.disjoint h.orderly hopen hvalid watched
  have hsigner : x.signer = a :=
    batch.signer x (hcame.mem_iff.1 (List.mem_append_right _ List.mem_cons_self))
  have hlength := hcame.length_eq
  rw [List.length_append, List.length_cons] at hlength
  have hheld := h.length_eq
  have hbelow := batch.below
  have hnext := h.nextNonce_eq alone separate.disjoint (by omega)
  have hfresh : ∀ e ∈ t.ready, e.signer = x.signer → e.nonce ≠ x.nonce := fun e he =>
    isPending_eq_false_iff.1 hvalid.not_pending e (List.mem_append_left _ he)
  have hunused : (r.nonce t.best x.signer).toNat ≤ x.nonce.toNat :=
    UInt32.le_iff_toNat_le.1 (UInt32.not_lt.1 hvalid.not_stale)
  have hnonces := h.orderly.arrival_nonces ⟨x.hash, x, call⟩ hfresh hunused hvalid.place_eq
  have hperm := arrival_perm_of_signer (expectedNonce r t.best t.ready x.signer) t.future
    ⟨x.hash, x, call⟩ placement
  have hturn := arrival_signer (expectedNonce r t.best t.ready x.signer) t.future
    ⟨x.hash, x, call⟩ placement
  subst hsigner
  rw [← hfuture] at hperm
  exact ⟨by rw [submit_of_ok hopen (validate_eq_ok_iff.2 hvalid)], _, _,
    h.add hqueued (h.orderly.step separate.disjoint (.submit x watched)) hperm
      ⟨rfl, hvalid.call_eq⟩ hturn (hnonces.trans (congrArg (List.range' · _) hnext))⟩

include separate h alone batch in
/-- When all have come, the nonce that someone held would wait for has come, too. -/
theorem complete (hcame : came.Perm xs) : added.map (·.extrinsic) = xs := by
  have hlength := hcame.length_eq
  have hheld := h.length_eq
  have hbelow := batch.below
  have hnext := h.nextNonce_eq alone separate.disjoint (by omega)
  have hadded : ∀ e ∈ added, e.nonce.toNat < (r.nonce s.best a).toNat + added.length := by
    intro e he
    have hmem : e.nonce.toNat ∈ added.map (·.nonce.toNat) := List.mem_map_of_mem he
    rw [h.nonces, List.mem_range'_1] at hmem
    exact hmem.2
  have hall : added.length = xs.length := by
    refine Nat.le_antisymm (by omega) (Nat.not_lt.1 fun hlt => ?_)
    have hmem : (r.nonce s.best a).toNat + added.length ∈ xs.map (·.nonce.toNat) := by
      rw [batch.nonces, List.mem_range'_1]
      omega
    obtain ⟨x, hx, hnonce⟩ := List.mem_map.1 hmem
    obtain ⟨e, he, rfl⟩ := List.mem_map.1 ((h.places.trans hcame).mem_iff.2 hx)
    have hnonce : e.nonce.toNat = (r.nonce s.best a).toNat + added.length := hnonce
    rcases List.mem_append.1 he with he | he
    · exact Nat.ne_of_lt (hadded e he) hnonce
    · obtain ⟨hmem, hsigner⟩ := List.mem_filter.1 he
      have hahead := h.orderly.ahead e hmem
      rw [of_decide_eq_true hsigner, hnext] at hahead
      omega
  have hnone : t.future.filter (·.signer = a) = [] := List.length_eq_zero_iff.1 (by omega)
  have hperm := h.places.trans hcame
  rw [hnone, List.append_nil] at hperm
  -- Both lists are in the order of their nonces.
  have hsorted : ∀ ys : List Extrinsic,
      ys.map (·.nonce.toNat) = List.range' (r.nonce s.best a).toNat ys.length →
      ys.Pairwise fun x y => x.nonce.toNat < y.nonce.toNat := fun ys hys =>
    List.pairwise_map.1 (hys ▸ List.pairwise_lt_range')
  refine hperm.eq_of_pairwise ?_ (hsorted _ ?_) (hsorted xs batch.nonces)
  · intro x y _ _ hxy hyx
    exact absurd hxy (Nat.lt_asymm hyx)
  · rw [List.map_map, List.length_map]
    exact h.nonces

end Batch

/-- All transactions of a batch are accepted, in any order and with blocks anywhere. -/
theorem run (separate : r.keys.Separate) (h : Arrived r s a came added executed t)
    (alone : ∀ e ∈ s.ready ++ s.future, e.signer ≠ a) (batch : Batch r s a xs)
    (hopen : t.closed = false) (ops : List Op) (hops : ∀ op ∈ ops, op.isSubmission ∨ op = .block)
    (hcame : (came ++ Op.extrinsics ops).Perm xs) :
    t.replies r ops = (Op.extrinsics ops).map (.ok ·.hash) ∧ ∃ added' executed',
      Arrived r s a (came ++ Op.extrinsics ops) added' executed' (t.run r ops) := by
  induction ops generalizing t came added executed with
  | nil => exact ⟨rfl, added, executed, by rwa [Op.extrinsics, List.filterMap_nil, List.append_nil]⟩
  | cons op ops ih =>
    obtain ⟨hop, hrest⟩ := List.forall_mem_cons.1 hops
    cases op with
    | submit x watched =>
      have hextrinsics : Op.extrinsics (.submit x watched :: ops) = x :: Op.extrinsics ops := rfl
      rw [hextrinsics] at hcame ⊢
      obtain ⟨hreply, _, _, hnext⟩ := h.submit separate alone batch hcame hopen watched
      have hopen' : (t.submit r x watched).2.closed = false :=
        (closed_step r t (nofun : Op.submit x watched ≠ .close)).trans hopen
      rw [List.append_cons] at hcame ⊢
      obtain ⟨hreplies, hlast⟩ := ih hnext hopen' hrest hcame
      exact ⟨congrArg₂ List.cons hreply hreplies, hlast⟩
    | block =>
      have hopen' : (t.requestSeal r).2.closed = false :=
        (closed_step r t (nofun : Op.block ≠ .close)).trans hopen
      exact ih (h.block separate.disjoint hopen) hopen' hrest hcame
    | fund account free => exact absurd hop (by simp [Op.isSubmission])
    | close => exact absurd hop (by simp [Op.isSubmission])

end Arrived

/-- What is added is told by the transactions, as each is filed with its own hash and call. -/
theorem added_eq {added others : List PoolEntry} (hadded : ∀ e ∈ added, e.Faithful r)
    (hothers : ∀ e ∈ others, e.Faithful r)
    (h : added.map (·.extrinsic) = others.map (·.extrinsic)) : added = others := by
  induction added generalizing others with
  | nil => exact (List.map_eq_nil_iff.1 h.symm).symm
  | cons e added ih =>
    cases others with
    | nil => cases h
    | cons f others =>
      obtain ⟨hfirst, hrest⟩ := List.cons.inj h
      obtain ⟨he, hadded⟩ := List.forall_mem_cons.1 hadded
      obtain ⟨hf, hothers⟩ := List.forall_mem_cons.1 hothers
      rw [he.eq hf rfl hfirst, ih hadded hothers hrest]

/-- What a batch adds to the queue is the batch in order, however it comes. -/
theorem Orderly.run_batch (horder : Orderly r s) (separate : r.keys.Separate)
    (hopen : s.closed = false) (alone : ∀ e ∈ s.ready ++ s.future, e.signer ≠ a)
    (batch : Batch r s a xs) {ops : List Op} (hops : ∀ op ∈ ops, op.isSubmission ∨ op = .block)
    (hperm : (Op.extrinsics ops).Perm xs) :
    s.replies r ops = (Op.extrinsics ops).map (.ok ·.hash) ∧
      ∃ added, added.map (·.extrinsic) = xs ∧ (∀ e ∈ added, e.Faithful r) ∧
        ((s.run r ops).requestSeal r).2.best = (r.executeAll s.best (s.ready ++ added)).1 ∧
        ((s.run r ops).requestSeal r).2.log = s.log ++
          (r.executeAll s.best (s.ready ++ added)).2.map fun tx => (tx.hash, tx.event) := by
  obtain ⟨hreplies, added, executed, harrived⟩ :=
    (Arrived.initial horder alone).run separate alone batch hopen ops hops hperm
  have hclosed : (s.run r ops).closed = false := harrived.queued.closed.trans hopen
  obtain ⟨hbest, hlog⟩ := harrived.queued.sealed_all separate.disjoint harrived.orderly hclosed
  refine ⟨hreplies, added, harrived.complete separate alone batch hperm, fun e he => ?_, hbest, hlog⟩
  exact harrived.faithful e (List.mem_append_left _ he)

/-- What comes of a batch, once a last block is sealed: that all are accepted, and that entries, nonce and
log are as they are when it is sent in order. -/
structure InAnyOrder (r : Rules) (s : State) (a : AccountId) (xs : List Extrinsic) (ops : List Op) :
    Prop where
  accepted : s.replies r ops = (Op.extrinsics ops).map (.ok ·.hash)
  best : ((s.run r ops).requestSeal r).2.best =
    ((s.run r (xs.map (.submit · false))).requestSeal r).2.best
  log : ((s.run r ops).requestSeal r).2.log =
    ((s.run r (xs.map (.submit · false))).requestSeal r).2.log
  nonce : (r.nonce ((s.run r ops).requestSeal r).2.best a).toNat =
    (r.nonce s.best a).toNat + xs.length

/-- **It does not matter in which order the transactions of an account come.** -/
theorem run_arrivalOrder (c : Config) (separate : (StorageKeys.ofLayout c.layout).Separate)
    (before : List Op) :
    let r := Rules.ofConfig c
    let s := (State.initial r).run r before
    s.closed = false → ∀ a, (∀ e ∈ s.ready ++ s.future, e.signer ≠ a) → ∀ xs, Batch r s a xs →
      ∀ ops, (∀ op ∈ ops, op.isSubmission ∨ op = .block) → (Op.extrinsics ops).Perm xs →
        InAnyOrder r s a xs ops := by
  intro r s hopen a alone xs batch ops hops hperm
  have horder : Orderly r s := (Orderly.initial r).run separate.disjoint before
  have hinOrder : Op.extrinsics (xs.map (.submit · false)) = xs := by
    unfold Op.extrinsics
    rw [List.filterMap_map]
    exact List.filterMap_some
  have hsubmissions : ∀ op ∈ xs.map (Op.submit · false), op.isSubmission ∨ op = .block := by
    rintro op hop
    obtain ⟨x, -, rfl⟩ := List.mem_map.1 hop
    exact .inl rfl
  obtain ⟨hreplies, added, hadded, hfaithful, hbest, hlog⟩ :=
    horder.run_batch separate hopen alone batch hops hperm
  obtain ⟨-, others, hothers, hfaithful', hbest', hlog'⟩ :=
    horder.run_batch separate hopen alone batch hsubmissions (.of_eq hinOrder)
  obtain rfl : added = others := added_eq hfaithful hfaithful' (hadded.trans hothers.symm)
  refine ⟨hreplies, hbest.trans hbest'.symm, hlog.trans hlog'.symm, ?_⟩
  have hcount : (s.ready ++ added).countP (·.signer = a) = xs.length := by
    have hnone : s.ready.countP (·.signer = a) = 0 :=
      countP_signer_eq_zero fun e he => alone e (List.mem_append_left _ he)
    have hall : added.countP (·.signer = a) = added.length :=
      countP_signer_eq_length fun e he => batch.signer _ (hadded ▸ List.mem_map_of_mem he)
    rw [List.countP_append, hnone, hall, Nat.zero_add, ← hadded, List.length_map]
  have hbelow := batch.below
  rw [hbest, Rules.toNat_nonce_executeAll separate.disjoint _ _ _ (by rw [hcount]; exact hbelow),
    hcount]

open Ed25519 (neutralKey) in
/-- The longest batch comes backwards, with a block after each transaction. -/
theorem run_arrivalOrder_backwards :
    let r := Rules.ofConfig { sealMode := .manual }
    let call := Call.set [7] [1] [2]
    let xs := (List.range 65).map fun n =>
      Extrinsic.neutral neutralKey (UInt32.ofNat n) (call.encodeAt ⟨8, 0⟩)
    InAnyOrder r (State.initial r) ⟨neutralKey⟩ xs
      (xs.reverse.flatMap fun x => [.submit x true, .block]) := by
  intro r call xs
  have hcall : r.call? (call.encodeAt ⟨8, 0⟩) = some call := by decide +kernel
  have batch : Batch r (State.initial r) ⟨neutralKey⟩ xs := by
    refine ⟨?_, by decide +kernel, ?_, nofun, by decide +kernel, by decide +kernel⟩
    · intro x hx
      obtain ⟨n, -, rfl⟩ := List.mem_map.1 hx
      rfl
    · intro x hx
      obtain ⟨n, -, rfl⟩ := List.mem_map.1 hx
      exact ⟨⟨(), Extrinsic.verify_neutral Ed25519.neutralKey_namesNeutral _ _ r.chain⟩,
        Option.isSome_iff_exists.2 ⟨call, hcall⟩⟩
  refine run_arrivalOrder { sealMode := .manual } (by decide +kernel) [] rfl ⟨neutralKey⟩ nofun xs batch
    (xs.reverse.flatMap fun x => [.submit x true, .block]) ?_ ?_
  · intro op hop
    obtain ⟨x, -, hop⟩ := List.mem_flatMap.1 hop
    rcases List.mem_pair.1 hop with rfl | rfl
    · exact .inl rfl
    · exact .inr rfl
  · have hreverse : Op.extrinsics (xs.reverse.flatMap fun x => [.submit x true, .block]) =
        xs.reverse := by
      unfold Op.extrinsics
      rw [List.filterMap_flatMap]
      exact List.flatMap_singleton' _
    rw [hreverse]
    exact xs.reverse_perm

end MetaLedger.Ledger.State
