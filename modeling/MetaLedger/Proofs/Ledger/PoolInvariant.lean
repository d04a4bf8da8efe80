import Mathlib.Data.List.Perm.Subperm
import MetaLedger.Proofs.Ledger.Queues

/-!
# The pool between operations

In every state that a ledger reaches, the ready transactions of an account carry the nonces that
follow its executed ones, without a gap, and its other waiting transactions carry later nonces, at most
64 ahead and none of them next (`run_poolInvariant`).

The order of the pool (`Orderly`) is kept whatever happens. That no transaction is far ahead is kept as
long as nonces are numbers of transactions, so it is counted how many each account has had accepted
(`Pooled`): the next nonce never goes back then.
-/

namespace MetaLedger.Ledger.State

variable {r : Rules} {s : State} {taken : Nat}

/-- Where the waiting transactions stand at any time. Each account has had at most `taken`
transactions accepted. -/
structure Pooled (r : Rules) (s : State) (taken : Nat) : Prop where
  apart : (s.ready ++ s.future).Pairwise Apart
  ready_nonces : ∀ a, (s.ready.filter (·.signer = a)).map (·.nonce.toNat) =
    List.range' (r.nonce s.best a).toNat (s.ready.countP (·.signer = a))
  from_next : ∀ e ∈ s.future, nextNonce r s e.signer ≤ e.nonce.toNat
  near : ∀ e ∈ s.future, e.nonce.toNat ≤ nextNonce r s e.signer + maxFutureGap
  taken_le : ∀ a, nextNonce r s a + s.future.countP (·.signer = a) ≤ taken

theorem Pooled.lined (h : Pooled r s taken) : Lined r s := ⟨h.apart, h.ready_nonces, h.from_next⟩

/-- The nonces of an account's ready transactions are those below the next one that are not used. -/
theorem Pooled.exists_ready_iff (h : Pooled r s taken) (a : AccountId) (nonce : Nonce) :
    (∃ e ∈ s.ready, e.signer = a ∧ e.nonce = nonce) ↔
      (r.nonce s.best a).toNat ≤ nonce.toNat ∧ nonce.toNat < nextNonce r s a :=
  h.lined.exists_ready_iff a nonce

theorem Pooled.mono {more : Nat} (h : Pooled r s taken) (hmore : taken ≤ more) :
    Pooled r s more :=
  ⟨h.apart, h.ready_nonces, h.from_next, h.near, fun a => Nat.le_trans (h.taken_le a) hmore⟩

theorem Pooled.nextNonce_le (h : Pooled r s taken) (a : AccountId) : nextNonce r s a ≤ taken :=
  Nat.le_trans (Nat.le_add_right _ _) (h.taken_le a)

theorem Pooled.nextNonce_lt (h : Pooled r s taken) (few : taken < UInt32.size) (a : AccountId) :
    nextNonce r s a < UInt32.size := Nat.lt_of_le_of_lt (h.nextNonce_le a) few

/-! ## Promotion -/

section Promote

variable {signer : AccountId} {turn rest : List PoolEntry}

theorem Pooled.promoted (h : Pooled r s taken)
    (hp : Promoted signer (nextNonce r s signer) s.future turn rest) :
    Pooled r { s with ready := s.ready ++ turn, future := rest } taken where
  apart := (h.lined.promoted hp).apart
  ready_nonces := (h.lined.promoted hp).ready_nonces
  from_next := (h.lined.promoted hp).from_next
  near e he := by
    rw [nextNonce_promoted hp]
    have hnear := h.near e (hp.sublist.subset he)
    omega
  taken_le a := by
    rw [nextNonce_promoted hp, ← hp.countP_turn a, Nat.add_assoc, ← List.countP_append,
      ← hp.perm.countP_eq]
    exact h.taken_le a

end Promote

/-! ## Acceptance -/

section Accept

variable {entry : PoolEntry}

/-- The transaction that is next joins the ready ones. Those of its account that wait may be next
now. -/
theorem Pooled.push_ready (h : Pooled r s taken)
    (hpush : Lined r { s with ready := s.ready ++ [entry] }) :
    Pooled r { s with ready := s.ready ++ [entry] } (taken + 1) where
  apart := hpush.apart
  ready_nonces := hpush.ready_nonces
  from_next := hpush.from_next
  near e he := by
    have hnear := h.near e he
    rw [nextNonce_push]
    omega
  taken_le a := by
    have htaken := h.taken_le a
    rw [nextNonce_push]
    show _ + s.future.countP _ ≤ _
    split <;> omega

/-- A transaction behind a gap joins those that wait. -/
theorem Pooled.push_future (h : Pooled r s taken)
    (hpush : Lined r { s with future := s.future ++ [entry] })
    (hhigh : entry.nonce.toNat ≤ nextNonce r s entry.signer + maxFutureGap) :
    Pooled r { s with future := s.future ++ [entry] } (taken + 1) where
  apart := hpush.apart
  ready_nonces := hpush.ready_nonces
  from_next := hpush.from_next
  near e he := by
    rcases List.mem_append.1 he with he | he
    · exact h.near e he
    · rw [List.mem_singleton.1 he]
      exact hhigh
  taken_le a := by
    have htaken := h.taken_le a
    show nextNonce r s a + (s.future ++ [entry]).countP _ ≤ _
    rw [List.countP_append, List.countP_singleton]
    split <;> omega

end Accept

/-! ## Blocks -/

section Blocks

variable (separate : r.keys.Separate)

include separate in
/-- Counting does not stop at the largest nonce where there are fewer transactions than nonces. -/
theorem Pooled.nextNonce_withBlock (h : Pooled r s taken) (few : taken < UInt32.size)
    (a : AccountId) : nextNonce r (s.withBlock r) a = nextNonce r s a := by
  rw [State.nextNonce_withBlock separate.disjoint]
  exact Nat.min_eq_left (Nat.le_sub_one_of_lt (h.nextNonce_lt few a))

end Blocks

/-! ## Operations -/

/-- What holds of the pool between operations. -/
structure Steady (r : Rules) (s : State) (taken : Nat) : Prop where
  pooled : Pooled r s taken
  ahead : AllAhead r s

namespace Steady

theorem orderly (h : Steady r s taken) : Orderly r s :=
  ⟨h.pooled.apart, h.pooled.ready_nonces, h.ahead⟩

theorem mono {more : Nat} (h : Steady r s taken) (hmore : taken ≤ more) : Steady r s more :=
  ⟨h.pooled.mono hmore, h.ahead⟩

theorem congr {t : State} (h : Steady r s taken) (hbest : t.best = s.best)
    (hready : t.ready = s.ready) (hfuture : t.future = s.future) : Steady r t taken := by
  obtain ⟨⟨hapart, hnonces, hfrom, hnear, htaken⟩, hahead⟩ := h
  unfold AllAhead nextNonce at *
  rw [← hbest, ← hready, ← hfuture] at *
  exact ⟨⟨hapart, hnonces, hfrom, hnear, htaken⟩, hahead⟩

theorem initial (r : Rules) : Steady r (State.initial r) 0 := by
  have hnonce : ∀ a, nextNonce r (State.initial r) a = 0 := fun _ => rfl
  exact ⟨⟨.nil, fun _ => rfl, fun _ he => (nomatch he), fun _ he => (nomatch he),
    fun a => Nat.le_of_eq (hnonce a)⟩, fun _ he => (nomatch he)⟩

variable (separate : r.keys.Separate)

include separate in
theorem sealBlock (h : Steady r s taken) (few : taken < UInt32.size) :
    Steady r (s.sealBlock r) taken := by
  have hblock := h.orderly.withBlock separate.disjoint
  have hnext := h.pooled.nextNonce_withBlock separate few
  rw [h.orderly.sealBlock_eq separate.disjoint]
  refine ⟨⟨hblock.apart, hblock.ready_nonces, hblock.lined.from_next, fun e he => ?_, fun a => ?_⟩,
    hblock.ahead⟩
  · rw [withBlock_future] at he
    rw [hnext]
    exact h.pooled.near e he
  · rw [withBlock_future, hnext]
    exact h.pooled.taken_le a

include separate in
theorem sealIfInstant (h : Steady r s taken) (few : taken < UInt32.size) :
    Steady r (s.sealIfInstant r) taken := by
  unfold State.sealIfInstant
  split
  · exact h.sealBlock separate few
  · exact h

/-- A transaction that has been checked finds its place. -/
theorem enqueue (h : Steady r s taken) {entry : PoolEntry} {placement : Placement}
    (fresh : ∀ e ∈ s.ready ++ s.future, Apart e entry)
    (unused : (r.nonce s.best entry.signer).toNat ≤ entry.nonce.toNat)
    (hplace : place (expectedNonce r s.best s.ready entry.signer) entry.nonce = .ok placement) :
    Steady r (s.enqueue r entry placement) (taken + 1) := by
  have hfresh : ∀ e ∈ s.ready, e.signer = entry.signer → e.nonce ≠ entry.nonce := fun e he =>
    fresh e (List.mem_append_left _ he)
  have hahead := (h.orderly.enqueue fresh unused hplace).ahead
  rcases h.pooled.lined.placed hfresh unused hplace with ⟨rfl, hnonce⟩ | ⟨rfl, hlow, hhigh⟩
  · have hpush := h.pooled.push_ready (h.orderly.push_ready fresh hnonce)
    obtain ⟨turn, rest, heq, hp⟩ := hpush.lined.exists_promoted entry.signer
    have hpooled : Pooled r (State.promote r entry.signer { s with ready := s.ready ++ [entry] })
        (taken + 1) := by
      rw [heq]
      exact hpush.promoted hp
    exact ⟨hpooled, hahead⟩
  · exact ⟨h.pooled.push_future (h.orderly.push_future fresh hlow).lined hhigh, hahead⟩

theorem accept (h : Steady r s taken) {x : Extrinsic} {call : Call} {placement : Placement}
    (hvalid : s.Valid r x call placement) (watched : Bool) :
    Steady r (s.accept r x watched call placement) (taken + 1) := by
  obtain ⟨t, hbest, hready, hfuture, -, -, -, heq⟩ := accept_eq_enqueue r x watched call placement s
  rw [heq]
  refine (h.congr hbest hready hfuture).enqueue ?_ ?_ ?_
  · intro e he hsigner
    rw [hready, hfuture] at he
    exact isPending_eq_false_iff.1 hvalid.not_pending e he hsigner
  · rw [hbest]
    exact UInt32.le_iff_toNat_le.1 (UInt32.not_lt.1 hvalid.not_stale)
  · rw [hbest, hready]
    exact hvalid.place_eq

include separate in
theorem submit (h : Steady r s taken) (few : taken + 1 < UInt32.size) (x : Extrinsic)
    (watched : Bool) : Steady r (s.submit r x watched).2 (taken + 1) := by
  rcases submit_cases r x watched s with ⟨e, heq⟩ | ⟨call, placement, -, hvalid, heq⟩
  · rw [heq]
    exact h.mono (Nat.le_succ taken)
  · rw [heq]
    exact (h.accept (validate_eq_ok_iff.1 hvalid) watched).sealIfInstant separate few

theorem fund (h : Steady r s taken) (account : AccountId) (free : Amount) :
    Steady r (s.fund r account free) taken := by
  have hnext : ∀ a, nextNonce r (s.fund r account free) a = nextNonce r s a := fun a => by
    unfold nextNonce
    rw [nonce_fund]
    rfl
  refine ⟨⟨h.pooled.apart, fun a => ?_, fun e he => ?_, fun e he => ?_, fun a => ?_⟩,
    fun e he => ?_⟩
  · rw [nonce_fund]
    exact h.pooled.ready_nonces a
  · rw [hnext]
    exact h.pooled.from_next e he
  · rw [hnext]
    exact h.pooled.near e he
  · rw [hnext]
    exact h.pooled.taken_le a
  · rw [hnext]
    exact h.ahead e he

theorem close (h : Steady r s taken) : Steady r s.close taken := by
  unfold State.close
  split
  · exact h
  · refine ⟨⟨.nil, fun _ => rfl, fun _ he => (nomatch he), fun _ he => (nomatch he), fun a => ?_⟩,
      fun _ he => (nomatch he)⟩
    exact Nat.le_trans (Nat.le_add_right _ _) (h.pooled.nextNonce_le a)

include separate in
theorem step (h : Steady r s taken) (op : Op)
    (few : taken + Op.submissions [op] < UInt32.size - 1) :
    Steady r (s.step r op) (taken + Op.submissions [op]) := by
  have hfew : taken + Op.submissions [op] + 1 < UInt32.size := by omega
  cases op with
  | submit x watched => exact h.submit separate (by exact Nat.lt_of_succ_lt hfew) x watched
  | block =>
    show Steady r (s.requestSeal r).2 taken
    cases hclosed : s.closed with
    | true =>
      rw [requestSeal_of_closed hclosed]
      exact h
    | false =>
      rw [requestSeal_of_open hclosed]
      exact h.sealBlock separate (Nat.lt_of_succ_lt hfew)
  | fund account free => exact h.fund account free
  | close => exact h.close

include separate in
theorem run (h : Steady r s taken) (ops : List Op)
    (few : taken + Op.submissions ops < UInt32.size - 1) :
    Steady r (s.run r ops) (taken + Op.submissions ops) := by
  induction ops generalizing s taken with
  | nil => exact h
  | cons op ops ih =>
    have hcount : Op.submissions (op :: ops) = Op.submissions [op] + Op.submissions ops :=
      Op.submissions_append [op] ops
    rw [hcount, ← Nat.add_assoc] at few ⊢
    exact ih (h.step separate op (by omega)) few

end Steady

/-! ## Instant mode -/

section Instant

variable (separate : r.keys.Separate) (instant : r.sealMode = .instant)

include separate instant

theorem Steady.ready_run (h : Steady r s taken) (hready : s.ready = []) (ops : List Op)
    (few : taken + Op.submissions ops < UInt32.size - 1) : (s.run r ops).ready = [] := by
  induction ops generalizing s taken with
  | nil => exact hready
  | cons op ops ih =>
    have hcount : Op.submissions (op :: ops) = Op.submissions [op] + Op.submissions ops :=
      Op.submissions_append [op] ops
    rw [hcount, ← Nat.add_assoc] at few
    exact ih (h.step separate op (by omega)) (h.orderly.ready_step separate.disjoint instant hready op) few

end Instant

/-! ## Every run -/

/-- What holds of the pool in every state that a ledger reaches. -/
structure PoolInvariant (r : Rules) (s : State) : Prop where
  /-- No two waiting transactions share account and nonce. -/
  apart : (s.ready ++ s.future).Pairwise fun e f => ¬(e.signer = f.signer ∧ e.nonce = f.nonce)
  /-- The ready ones of an account carry, in their order, the nonces from its own on. -/
  ready_nonces : ∀ a, (s.ready.filter (·.signer = a)).map (·.nonce.toNat) =
    List.range' (r.nonce s.best a).toNat (s.ready.countP (·.signer = a))
  /-- The others come after a gap, and at most 64 ahead. -/
  future_ahead : ∀ e ∈ s.future,
    (r.nonce s.best e.signer).toNat + s.ready.countP (·.signer = e.signer) < e.nonce.toNat
  future_near : ∀ e ∈ s.future,
    e.nonce.toNat ≤ (r.nonce s.best e.signer).toNat + s.ready.countP (·.signer = e.signer) + 64
  /-- Promotion would find no one. -/
  none_due : s.NoneDue r
  /-- No account has more than 64 transactions behind a gap. -/
  future_few : ∀ a, s.future.countP (·.signer = a) ≤ 64
  ready_of_instant : r.sealMode = .instant → s.ready = []

/-- The nonces behind the gap are distinct, and there are 64 of them to be had. -/
theorem Steady.countP_future_le (h : Steady r s taken) (a : AccountId) :
    s.future.countP (·.signer = a) ≤ maxFutureGap := by
  have hapart : s.future.Pairwise Apart := (List.pairwise_append.1 h.pooled.apart).2.1
  have hnodup : ((s.future.filter (·.signer = a)).map (·.nonce.toNat)).Nodup := by
    refine List.pairwise_map.2 ((hapart.filter _).imp_of_mem fun {e f} he hf hne heq => ?_)
    have hsigner : e.signer = f.signer := by
      rw [of_decide_eq_true (List.mem_filter.1 he).2, of_decide_eq_true (List.mem_filter.1 hf).2]
    exact hne hsigner (UInt32.toNat_inj.1 heq)
  have hsubset : (s.future.filter (·.signer = a)).map (·.nonce.toNat) ⊆
      List.range' (nextNonce r s a + 1) maxFutureGap := fun n hn => by
    obtain ⟨e, he, rfl⟩ := List.mem_map.1 hn
    obtain ⟨hmem, hsigner⟩ := List.mem_filter.1 he
    have hahead := h.ahead e hmem
    have hnear := h.pooled.near e hmem
    rw [of_decide_eq_true hsigner] at hahead hnear
    rw [List.mem_range'_1]
    omega
  have hlength := (List.subperm_of_subset hnodup hsubset).length_le
  rwa [List.length_map, List.length_range', ← List.countP_eq_length_filter] at hlength

theorem Steady.poolInvariant (h : Steady r s taken) (few : taken < UInt32.size)
    (hinstant : r.sealMode = .instant → s.ready = []) : PoolInvariant r s where
  apart := h.pooled.apart.imp fun hapart hsame => hapart hsame.1 hsame.2
  ready_nonces := h.pooled.ready_nonces
  future_ahead := h.ahead
  future_near := h.pooled.near
  none_due e he hnonce := by
    have hahead := h.ahead e he
    rw [hnonce, toNat_expectedNonce (h.pooled.nextNonce_lt few e.signer)] at hahead
    exact Nat.lt_irrefl _ hahead
  future_few := h.countP_future_le
  ready_of_instant := hinstant

/-- **The pool between operations.** Whatever is done with a ledger, in whatever order. -/
theorem run_poolInvariant (c : Config) (separate : (StorageKeys.ofLayout c.layout).Separate)
    (ops : List Op) (few : Op.Few ops) :
    PoolInvariant (Rules.ofConfig c)
      ((State.initial (Rules.ofConfig c)).run (Rules.ofConfig c) ops) := by
  have hfew : 0 + Op.submissions ops < UInt32.size - 1 := by
    rw [Nat.zero_add]
    exact few
  have hinitial := Steady.initial (Rules.ofConfig c)
  refine (hinitial.run separate ops hfew).poolInvariant (Nat.lt_of_lt_pred hfew) fun hinstant => ?_
  exact hinitial.ready_run separate hinstant rfl ops hfew

theorem run_poolInvariant_outOfOrder :
    let r := Rules.ofConfig { sealMode := .manual }
    PoolInvariant r ((State.initial r).run r Op.outOfOrder) :=
  run_poolInvariant { sealMode := .manual } (by decide +kernel) Op.outOfOrder (by decide +kernel)

end MetaLedger.Ledger.State
