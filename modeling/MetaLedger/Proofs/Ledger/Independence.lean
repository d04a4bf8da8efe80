import MetaLedger.Proofs.Ledger.Contention
import MetaLedger.Proofs.Ledger.Footprint
import MetaLedger.Proofs.Ledger.Quiet
import MetaLedger.Proofs.Ledger.Succession

/-!
# Independent accounts do not contend

What is checked of a transaction concerns its own account only: the balance and the nonce, and what the
account has in the pool. A submission leaves all of this as it is for every other account (`Unmoved`), so
two accounts get the same answers whichever comes first.

Behind what was ready, a submission adds to the queue the transaction itself and those of its account that
waited for it (`brings`), and this is the same in either order, too. If the two accounts name no record in
common, what they add has no address in common, and may be executed in either order
(`run_independent`).
-/

namespace MetaLedger.Ledger

namespace State

variable {r : Rules} {s t : State} {a : AccountId} {x y : Extrinsic} {watched : Bool}

/-! ## What concerns an account -/

/-- Nothing that concerns an account is different. -/
structure Unmoved (r : Rules) (a : AccountId) (s t : State) : Prop where
  nonce : r.nonce t.best a = r.nonce s.best a
  isUnfunded : t.isUnfunded r a = s.isUnfunded r a
  ready : t.ready.filter (·.signer = a) = s.ready.filter (·.signer = a)
  future : t.future.filter (·.signer = a) = s.future.filter (·.signer = a)
  closed : t.closed = s.closed

namespace Unmoved

theorem expectedNonce_eq (h : Unmoved r a s t) :
    expectedNonce r t.best t.ready a = expectedNonce r s.best s.ready a := by
  unfold expectedNonce readyCount
  rw [h.nonce, List.countP_eq_length_filter, List.countP_eq_length_filter, h.ready]

theorem isPending_eq (h : Unmoved r a s t) (nonce : Nonce) :
    t.isPending a nonce = s.isPending a nonce := by
  unfold isPending
  rw [← List.any_filter, ← List.any_filter, List.filter_append, List.filter_append, h.ready, h.future]

theorem validate_eq (h : Unmoved r x.signer s t) : t.validate r x = s.validate r x := by
  unfold validate
  rw [h.nonce, h.isUnfunded, h.isPending_eq, h.expectedNonce_eq]

theorem reply_eq (h : Unmoved r x.signer s t) (watched : Bool) :
    (t.submit r x watched).1 = (s.submit r x watched).1 := by
  unfold submit
  rw [h.closed, h.validate_eq]
  split
  · rfl
  · split <;> rfl

end Unmoved

/-! ## What a submission brings -/

/-- What a transaction adds to the ready ones when it is handed in: itself and those that waited for it,
if its turn has come. -/
def brings (r : Rules) (s : State) (x : Extrinsic) : List PoolEntry :=
  match s.validate r x with
  | .ok (call, placement) =>
    (arrival (expectedNonce r s.best s.ready x.signer) s.future ⟨x.hash, x, call⟩ placement).1
  | .error _ => []

theorem brings_signer (r : Rules) (s : State) (x : Extrinsic) :
    ∀ e ∈ s.brings r x, e.signer = x.signer := by
  unfold brings
  split
  · exact fun e he => arrival_signer _ _ _ _ e he
  · exact nofun

theorem Unmoved.brings_eq (h : Unmoved r x.signer s t) : t.brings r x = s.brings r x := by
  unfold brings
  rw [h.validate_eq, h.expectedNonce_eq]
  split
  · exact arrival_congr _ ⟨x.hash, x, _⟩ h.future _
  · rfl

/-- The names that an account has to do with when it hands in a transaction: those of its pooled
transactions, and the one of this. -/
def names (r : Rules) (s : State) (x : Extrinsic) : List (Bytes × Bytes) :=
  ((s.ready ++ s.future).filter (·.signer = x.signer)).map (fun e => (e.call.ns, e.call.key)) ++
    (r.call? x.call).toList.map fun call => (call.ns, call.key)

theorem name_mem_of_brings {e : PoolEntry} (he : e ∈ s.brings r x) :
    (e.call.ns, e.call.key) ∈ s.names r x := by
  have hsigner := brings_signer r s x e he
  unfold brings at he
  split at he
  · next call placement hvalid =>
    have hperm := arrival_perm (expectedNonce r s.best s.ready x.signer) s.future ⟨x.hash, x, call⟩
      placement
    rcases List.mem_append.1 (hperm.mem_iff.1 (List.mem_append_left _ he)) with hbefore | hnew
    · refine List.mem_append_left _ (List.mem_map.2 ⟨e, List.mem_filter.2 ⟨?_, ?_⟩, rfl⟩)
      · exact List.mem_append_right _ hbefore
      · exact decide_eq_true hsigner
    · obtain rfl := List.mem_singleton.1 hnew
      refine List.mem_append_right _ (List.mem_map.2 ⟨call, ?_, rfl⟩)
      rw [(validate_eq_ok_iff.1 hvalid).call_eq]
      exact List.mem_singleton_self call
  · cases he

/-! ## A submission -/

/-- What a submission brings comes behind all that is in the queue already. -/
theorem Queued.bring (disjoint : r.keys.Disjoint) {added executed : List PoolEntry}
    (h : Queued r s added executed t) (horder : Orderly r t) (hopen : t.closed = false)
    (x : Extrinsic) (watched : Bool) :
    Queued r s (added ++ t.brings r x) (executed ++ t.executes r (.submit x watched))
      (t.submit r x watched).2 := by
  cases hvalid : t.validate r x with
  | ok result =>
    obtain ⟨call, placement⟩ := result
    have hnext := (h.submit disjoint horder hopen (validate_eq_ok_iff.1 hvalid) watched).1
    unfold brings
    simp only [hvalid]
    exact hnext
  | error reason =>
    have hsubmit := submit_of_error hopen hvalid watched
    unfold brings executes
    simp only [hvalid, hsubmit, List.append_nil]
    exact h

/-- Where blocks are sealed at once, nobody else's transaction goes into one with a submission. -/
theorem executes_signer (hopen : s.closed = false) (instant : r.sealMode = .instant → s.ready = [])
    (x : Extrinsic) (watched : Bool) :
    ∀ e ∈ s.executes r (.submit x watched), e.signer = x.signer := by
  cases hvalid : s.validate r x with
  | error reason =>
    have hsubmit := submit_of_error hopen hvalid watched
    unfold executes
    simp only [hsubmit]
    exact nofun
  | ok result =>
    obtain ⟨call, placement⟩ := result
    have hsubmit := submit_of_ok hopen hvalid watched
    unfold executes
    simp only [hsubmit, hvalid]
    split
    · next hmode =>
      rw [accept_ready, instant hmode, List.nil_append]
      exact fun e he => arrival_signer _ _ _ _ e he
    · exact nofun

theorem future_submit_filter (disjoint : r.keys.Disjoint) (horder : Orderly r s)
    (hopen : s.closed = false) (hx : x.signer ≠ a) :
    (s.submit r x watched).2.future.filter (·.signer = a) = s.future.filter (·.signer = a) := by
  cases hvalid : s.validate r x with
  | error reason => rw [submit_of_error hopen hvalid]
  | ok result =>
    obtain ⟨call, placement⟩ := result
    have hfuture := ((Queued.refl r s).submit disjoint horder hopen (validate_eq_ok_iff.1 hvalid)
      watched).2
    rw [hfuture]
    exact arrival_filter_of_ne _ _ _ _ hx

/-- **A submission does not concern other accounts.** -/
theorem unmoved_submit (separate : r.keys.Separate) (horder : Orderly r s) (hopen : s.closed = false)
    (instant : r.sealMode = .instant → s.ready = []) (hx : x.signer ≠ a) (watched : Bool) :
    Unmoved r a s (s.submit r x watched).2 := by
  have hqueued := (Queued.refl r s).bring separate.disjoint horder hopen x watched
  rw [List.nil_append, List.nil_append] at hqueued
  have hexecuted : ∀ e ∈ s.executes r (.submit x watched), e.signer ≠ a := fun e he heq =>
    hx ((executes_signer hopen instant x watched e he).symm.trans heq)
  have hadded : ∀ e ∈ s.brings r x, e.signer ≠ a := fun e he heq =>
    hx ((brings_signer r s x e he).symm.trans heq)
  refine ⟨?_, hqueued.isUnfunded_eq separate a, ?_, ?_, hqueued.closed⟩
  · rw [hqueued.best, Rules.nonce_executeAll_of_ne separate _ hexecuted]
  · have hqueue := congrArg (List.filter (·.signer = a)) hqueued.queue
    rwa [List.filter_append, List.filter_append, filter_signer_eq_nil hexecuted,
      filter_signer_eq_nil hadded, List.nil_append, List.append_nil] at hqueue
  · exact future_submit_filter separate.disjoint horder hopen hx

end State

/-! ## Two accounts -/

namespace Chronicle

/-- The transactions executed in a run that began at `s`, with what was logged of them. -/
def outcomes (s : State) (h : Chronicle) : List (PoolEntry × TxHash × Event) :=
  h.executed.zip (h.state.log.drop s.log.length)

end Chronicle

namespace State

variable {r : Rules} {s : State} {x y : Extrinsic}

theorem Queued.outcomes_eq {added executed : List PoolEntry} {h : Chronicle}
    (hqueued : Queued r s added executed h.state) (hexecuted : h.executed = executed) :
    h.outcomes s = (r.outcomes s.best executed).map (Prod.map id fun tx => (tx.hash, tx.event)) := by
  unfold Chronicle.outcomes Rules.outcomes
  rw [hqueued.log, List.drop_left, hexecuted, List.zip_map_right]

/-- Two transactions of different accounts are answered, executed and counted alike in either order. -/
structure Independent (r : Rules) (s : State) (x y : Extrinsic) (watched watched' : Bool) : Prop where
  first : ((s.submit r y watched').2.submit r x watched).1 = (s.submit r x watched).1
  second : ((s.submit r x watched).2.submit r y watched').1 = (s.submit r y watched').1
  sealed : (s.names r x).Disjoint (s.names r y) →
    let h := Chronicle.run r { state := s } [.submit x watched, .submit y watched', .block]
    let k := Chronicle.run r { state := s } [.submit y watched', .submit x watched, .block]
    h.state.best = k.state.best ∧ (∀ a, r.nonce h.state.best a = r.nonce k.state.best a) ∧
      (h.outcomes s).Perm (k.outcomes s)

section Two

variable (separate : r.keys.Separate) (horder : Orderly r s) (hopen : s.closed = false)
  (instant : r.sealMode = .instant → s.ready = [])

include separate horder hopen instant

/-- With a block after them, two submissions have executed what was ready, and then what each brings. -/
theorem run_two (hne : x.signer ≠ y.signer) (watched watched' : Bool) :
    let h := Chronicle.run r { state := s } [.submit x watched, .submit y watched', .block]
    let txs := s.ready ++ (s.brings r x ++ s.brings r y)
    h.state.best = (r.executeAll s.best txs).1 ∧
      h.outcomes s = (r.outcomes s.best txs).map (Prod.map id fun tx => (tx.hash, tx.event)) := by
  intro h txs
  have disjoint := separate.disjoint
  have hunmoved := unmoved_submit separate horder hopen instant hne watched
  have hfirst := (Queued.refl r s).bring disjoint horder hopen x watched
  have hnext : Orderly r (s.submit r x watched).2 := horder.step disjoint (.submit x watched)
  have hopen' : (s.submit r x watched).2.closed = false := hunmoved.closed.trans hopen
  have hsecond := hfirst.bring disjoint hnext hopen' y watched'
  have hlast : Orderly r ((s.submit r x watched).2.submit r y watched').2 :=
    hnext.step disjoint (.submit y watched')
  have hopen'' : ((s.submit r x watched).2.submit r y watched').2.closed = false :=
    (hsecond.closed).trans hopen
  obtain ⟨hblock, -, hready⟩ := hsecond.block disjoint hlast hopen''
  -- The second submission finds what concerns its account as it was, so it brings the same as before.
  have hexecuted : h.executed = txs := by
    have hqueue : h.executed ++ _ = s.ready ++ ([] ++ s.brings r x ++ _) := hblock.queue
    rwa [hready, List.append_nil, List.nil_append, hunmoved.brings_eq] at hqueue
  have hqueued : Queued r s _ h.executed h.state := hblock
  rw [← hexecuted]
  exact ⟨hqueued.best, hqueued.outcomes_eq rfl⟩

theorem independent (hne : x.signer ≠ y.signer) (watched watched' : Bool) :
    Independent r s x y watched watched' := by
  refine ⟨?_, ?_, fun hnames => ?_⟩
  · exact (unmoved_submit separate horder hopen instant hne.symm watched').reply_eq watched
  · exact (unmoved_submit separate horder hopen instant hne watched).reply_eq watched'
  · intro h k
    obtain ⟨hbest, houtcomes⟩ : h.state.best = _ ∧ h.outcomes s = _ :=
      run_two separate horder hopen instant hne watched watched'
    obtain ⟨kbest, koutcomes⟩ : k.state.best = _ ∧ k.outcomes s = _ :=
      run_two separate horder hopen instant hne.symm watched' watched
    have hapart : r.Apart (s.brings r x) (s.brings r y) :=
      Rules.apart_of_names separate.disjoint fun e he f hf => by
        refine ⟨?_, fun hsame => ?_⟩
        · rw [brings_signer r s x e he, brings_signer r s y f hf]
          exact hne
        · exact hnames (name_mem_of_brings he) (hsame ▸ name_mem_of_brings hf)
    -- What was ready comes first in either order, and only what the two bring changes places.
    have hsame : h.state.best = k.state.best := by
      rw [hbest, kbest]
      simp only [Rules.executeAll_append_fst]
      exact Rules.executeAll_comm hapart _
    refine ⟨hsame, fun a => by rw [hsame], ?_⟩
    rw [houtcomes, koutcomes, Rules.outcomes_append r s.best s.ready,
      Rules.outcomes_append r s.best s.ready]
    exact ((hapart.outcomes_perm _).append_left _).map _

end Two

/-- **Independent accounts do not contend.** -/
theorem run_independent (c : Config) (separate : (StorageKeys.ofLayout c.layout).Separate)
    (before : List Op) :
    let r := Rules.ofConfig c
    let s := (State.initial r).run r before
    s.closed = false → ∀ x y, x.signer ≠ y.signer → ∀ watched watched',
      Independent r s x y watched watched' := by
  intro r s hopen x y hne watched watched'
  have horder : Orderly r s := (Orderly.initial r).run separate.disjoint before
  refine independent separate horder hopen (fun instant => ?_) hne watched watched'
  have hboth : Orderly r s ∧ s.ready = [] :=
    preserved_run (P := fun t => Orderly r t ∧ t.ready = [])
      (fun t op h => ⟨h.1.step separate.disjoint op, h.1.ready_step separate.disjoint instant h.2 op⟩)
      ⟨Orderly.initial r, rfl⟩ before
  exact hboth.2

open Ed25519 (neutralKey signedNeutralKey) in
/-- Two accounts send their first transactions, about different records. -/
theorem run_independent_first :
    let r := Rules.ofConfig { sealMode := .manual }
    let s := State.initial r
    let x := Extrinsic.neutral neutralKey 0 ((Call.set [7] [1] [2]).encodeAt ⟨8, 0⟩)
    let y := Extrinsic.neutral signedNeutralKey 0 ((Call.set [7] [2] []).encodeAt ⟨8, 0⟩)
    let h := Chronicle.run r { state := s } [.submit x true, .submit y false, .block]
    let k := Chronicle.run r { state := s } [.submit y false, .submit x true, .block]
    ((s.submit r y false).2.submit r x true).1 = .ok x.hash ∧ h.state.best = k.state.best ∧
      (h.outcomes s).Perm (k.outcomes s) := by
  intro r s x y h k
  have hne : x.signer ≠ y.signer := by decide +kernel
  obtain ⟨hfirst, -, hsealed⟩ :=
    run_independent { sealMode := .manual } (by decide +kernel) [] rfl x y hne true false
  have hx : s.names r x = [([7], [1])] := by decide +kernel
  have hy : s.names r y = [([7], [2])] := by decide +kernel
  have hnames : (s.names r x).Disjoint (s.names r y) := by
    rw [hx, hy, List.singleton_disjoint, List.mem_singleton]
    decide
  obtain ⟨hbest, -, houtcomes⟩ := hsealed hnames
  have hvalid : s.Valid r x (.set [7] [1] [2]) .ready := (quiet_initial r).valid rfl
    (Extrinsic.verify_neutral Ed25519.neutralKey_namesNeutral 0 x.call r.chain) (by decide +kernel) rfl
  have haccepted := congrArg Prod.fst (submit_of_ok (s := s) rfl (validate_eq_ok_iff.2 hvalid) true)
  exact ⟨hfirst.trans haccepted, hbest, houtcomes⟩

end State

end MetaLedger.Ledger
