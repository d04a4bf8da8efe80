import MetaLedger.Proofs.Ledger.History
import MetaLedger.Proofs.Ledger.Records

/-!
# Only its owner can touch a record

Between two points of a run, the blocks hold transactions that were accepted, signed for the chain, and
executed as their calls read (`Between`). Each record's stored value follows the trail that these leave
(`Advance`), and nothing else is done to it: funding and counting write to accounts only, and what is
refused leaves no trace. So what may have become of a record is what a trail may come to
(`run_ownerOnly`).

Nothing here asks that nonces do not wrap, or that the ledger stays open: who may touch a record does not
depend on when.
-/

namespace MetaLedger.Ledger

/-! ## Transactions that are vouched for -/

/-- The transaction was accepted: it is signed for the chain, and its call reads as the one that is
executed. -/
structure Vouched (r : Rules) (accepted : List Extrinsic) (e : PoolEntry) : Prop where
  accepted : e.extrinsic ∈ accepted
  verified : ∃ u, e.extrinsic.verify r.chain = .ok u
  call_eq : r.call? e.extrinsic.call = some e.call
  hash_eq : e.hash = e.extrinsic.hash

theorem Vouched.mono {r : Rules} {accepted more : List Extrinsic} {e : PoolEntry}
    (h : Vouched r accepted e) (hmore : accepted ⊆ more) : Vouched r more e :=
  ⟨hmore h.accepted, h.verified, h.call_eq, h.hash_eq⟩

theorem Vouched.short {r : Rules} {accepted : List Extrinsic} {e : PoolEntry}
    (h : Vouched r accepted e) : e.call.Short := by
  obtain ⟨_, _, hshort, _⟩ := Rules.call?_eq_some_iff.1 h.call_eq
  exact hshort

theorem State.Valid.vouched {r : Rules} {s : State} {x : Extrinsic} {call : Call}
    {placement : Placement} (h : s.Valid r x call placement) {accepted : List Extrinsic}
    (hmem : x ∈ accepted) : Vouched r accepted ⟨x.hash, x, call⟩ :=
  ⟨hmem, h.verified, h.call_eq, rfl⟩

namespace Chronicle

/-- Whoever waits is vouched for. -/
def PoolVouched (r : Rules) (h : Chronicle) : Prop :=
  ∀ e ∈ h.state.ready ++ h.state.future, Vouched r h.accepted e

/-! ## From one point to another -/

/-- What the blocks from one point of a chronicle to a later one hold. -/
structure Between (r : Rules) (h t : Chronicle) (included : List Included) : Prop where
  executed : t.executed = h.executed ++ included.map (·.tx)
  logged : t.state.events = h.state.events ++ included.map Included.logged
  accepted : h.accepted ⊆ t.accepted
  number_le : h.state.number ≤ t.state.number
  block : ∀ i ∈ included, h.state.number < i.block ∧ i.block ≤ t.state.number
  vouched : ∀ i ∈ included, Vouched r t.accepted i.tx

/-- What is stored of each record follows the trail that the blocks leave. -/
structure Advance (r : Rules) (h t : Chronicle) (included : List Included) : Prop where
  between : Between r h t included
  trail : ∀ ns key, ns.length < UInt32.size → key.length < UInt32.size →
    ∀ x, Stored r h.state.best ns key x →
      ∃ y, Stored r t.state.best ns key y ∧ Trail ns key included x y

variable {r : Rules} {h t u : Chronicle} {included more : List Included}

theorem Between.trans (hfirst : Between r h t included) (hsecond : Between r t u more) :
    Between r h u (included ++ more) where
  executed := by rw [hsecond.executed, hfirst.executed, List.map_append, List.append_assoc]
  logged := by rw [hsecond.logged, hfirst.logged, List.map_append, List.append_assoc]
  accepted := fun _ hx => hsecond.accepted (hfirst.accepted hx)
  number_le := Nat.le_trans hfirst.number_le hsecond.number_le
  block := by
    intro i hi
    rcases List.mem_append.1 hi with hi | hi
    · obtain ⟨hlow, hhigh⟩ := hfirst.block i hi
      exact ⟨hlow, Nat.le_trans hhigh hsecond.number_le⟩
    · obtain ⟨hlow, hhigh⟩ := hsecond.block i hi
      exact ⟨Nat.lt_of_le_of_lt hfirst.number_le hlow, hhigh⟩
  vouched := by
    intro i hi
    rcases List.mem_append.1 hi with hi | hi
    · exact (hfirst.vouched i hi).mono hsecond.accepted
    · exact hsecond.vouched i hi

theorem Advance.trans (hfirst : Advance r h t included) (hsecond : Advance r t u more) :
    Advance r h u (included ++ more) where
  between := hfirst.between.trans hsecond.between
  trail := by
    intro ns key hns hkey x hx
    obtain ⟨y, hy, htrail⟩ := hfirst.trail ns key hns hkey x hx
    obtain ⟨z, hz, hnext⟩ := hsecond.trail ns key hns hkey y hy
    exact ⟨z, hz, htrail.append hnext⟩

/-- No block is sealed, and nothing is written to a record. -/
theorem Advance.quiet {p : State} {accepted : List Extrinsic} (haccepted : h.accepted ⊆ accepted)
    (hevents : p.events = h.state.events) (hnumber : p.number = h.state.number)
    (hbest : ∀ ns key, p.best.get? (r.keys.recordAddress ns key) =
      h.state.best.get? (r.keys.recordAddress ns key)) :
    Advance r h ⟨p, accepted, h.executed⟩ [] where
  between := ⟨(List.append_nil _).symm, by rw [hevents]; exact (List.append_nil _).symm, haccepted,
    Nat.le_of_eq hnumber.symm, nofun, nofun⟩
  trail := fun ns key _ _ x hx => ⟨x, hx.congr (hbest ns key), .nil x⟩

theorem Advance.refl (r : Rules) (h : Chronicle) : Advance r h h [] :=
  .quiet (fun _ hx => hx) rfl rfl fun _ _ => rfl

/-- A transaction is in the pool, and nothing has been sealed yet. -/
def arrived (r : Rules) (x : Extrinsic) (watched : Bool) (call : Call) (placement : Placement)
    (h : Chronicle) : Chronicle :=
  ⟨h.state.accept r x watched call placement, h.accepted ++ [x], h.executed⟩

theorem Advance.arrived (x : Extrinsic) (watched : Bool) (call : Call) (placement : Placement) :
    Advance r h (h.arrived r x watched call placement) [] :=
  .quiet (List.subset_append_left _ _) (State.accept_events ..) (State.accept_number ..)
    fun _ _ => by rw [State.accept_best]

section Separate

variable (separate : r.keys.Separate) (hpool : PoolVouched r h)

include hpool

theorem PoolVouched.arrived {x : Extrinsic} {call : Call} {placement : Placement}
    (hvalid : h.state.Valid r x call placement) (watched : Bool) :
    PoolVouched r (h.arrived r x watched call placement) := by
  intro e he
  have hperm := State.accept_perm r x watched call placement h.state
  rcases List.mem_append.1 (hperm.mem_iff.1 he) with he | he
  · exact (hpool e he).mono (List.subset_append_left _ _)
  · obtain rfl := List.mem_singleton.1 he
    exact hvalid.vouched (List.mem_append_right _ (List.mem_singleton_self x))

/-- A block is sealed. -/
theorem PoolVouched.sealBlock :
    PoolVouched r ⟨h.state.sealBlock r, h.accepted, h.executed ++ h.state.ready⟩ := fun e he =>
  hpool e (List.mem_append_right _ ((State.sealBlock_perm r h.state).mem_iff.1 he))

include separate

theorem Advance.sealBlock : Advance r h
    ⟨h.state.sealBlock r, h.accepted, h.executed ++ h.state.ready⟩
    (r.includeAll (h.state.number + 1) h.state.best h.state.ready) where
  between := by
    refine ⟨?_, ?_, fun _ hx => hx, ?_, ?_, ?_⟩
    · rw [Rules.includeAll_tx]
    · rw [Rules.includeAll_logged]
      exact State.sealBlock_events r h.state
    · rw [State.sealBlock_number]
      exact Nat.le_succ _
    · intro i hi
      rw [Rules.includeAll_block r _ _ _ i hi, State.sealBlock_number]
      exact ⟨Nat.lt_succ_self _, Nat.le_refl _⟩
    · intro i hi
      have htx : i.tx ∈ h.state.ready := by
        rw [← r.includeAll_tx (h.state.number + 1) h.state.best h.state.ready]
        exact List.mem_map_of_mem hi
      exact hpool i.tx (List.mem_append_left _ htx)
  trail := by
    intro ns key hns hkey x hx
    rw [State.sealBlock_best]
    have hshort : ∀ tx ∈ h.state.ready, tx.call.Short := fun tx htx =>
      (hpool tx (List.mem_append_left _ htx)).short
    exact hx.executeAll separate hns hkey hshort _

theorem exists_advance_sealIfInstant :
    let next : Chronicle := ⟨h.state.sealIfInstant r, h.accepted,
      h.executed ++ if r.sealMode = .instant then h.state.ready else []⟩
    ∃ included, Advance r h next included ∧ PoolVouched r next := by
  intro next
  cases hmode : r.sealMode with
  | manual =>
    have hnext : next = h := by
      unfold next
      rw [State.sealIfInstant_of_manual hmode, hmode, if_neg (by decide), List.append_nil]
    rw [hnext]
    exact ⟨[], .refl r h, hpool⟩
  | instant =>
    by_cases hready : h.state.ready = []
    · have hnext : next = h := by
        unfold next
        rw [State.sealIfInstant_of_empty hready, hmode, if_pos rfl, hready, List.append_nil]
      rw [hnext]
      exact ⟨[], .refl r h, hpool⟩
    · have hnext : next = ⟨h.state.sealBlock r, h.accepted, h.executed ++ h.state.ready⟩ := by
        unfold next
        rw [State.sealIfInstant_of_ready hmode hready, hmode, if_pos rfl]
      rw [hnext]
      exact ⟨_, .sealBlock separate hpool, hpool.sealBlock⟩

/-- One operation seals a block of transactions that are vouched for, or leaves the records alone. -/
theorem exists_advance_step (op : Op) :
    ∃ included, Advance r h (h.step r op) included ∧ PoolVouched r (h.step r op) := by
  cases op with
  | submit x watched =>
    unfold step State.accepts State.executes State.step
    rcases State.submit_cases r x watched h.state with ⟨e, heq⟩ | ⟨call, placement, -, hvalid, heq⟩
    · simp only [heq, List.append_nil]
      exact ⟨[], .refl r h, hpool⟩
    · simp only [heq, hvalid]
      have harrived : Advance r h (h.arrived r x watched call placement) [] := .arrived ..
      have hvouched := hpool.arrived (State.validate_eq_ok_iff.1 hvalid) watched
      obtain ⟨included, hsealed, hpool'⟩ := exists_advance_sealIfInstant separate hvouched
      exact ⟨included, harrived.trans hsealed, hpool'⟩
  | block =>
    unfold step State.accepts State.executes State.step
    rw [List.append_nil]
    cases hclosed : h.state.closed with
    | true =>
      rw [State.requestSeal_of_closed hclosed, if_pos rfl, List.append_nil]
      exact ⟨[], .refl r h, hpool⟩
    | false =>
      rw [State.requestSeal_of_open hclosed, if_neg Bool.false_ne_true]
      exact ⟨_, .sealBlock separate hpool, hpool.sealBlock⟩
  | fund account free =>
    unfold step State.accepts State.executes State.step
    rw [List.append_nil, List.append_nil]
    refine ⟨[], .quiet (fun _ hx => hx) rfl rfl fun ns key => ?_, hpool⟩
    exact Entries.get?_insert_of_ne (separate.recordAddress_ne ns key account)
  | close =>
    unfold step State.accepts State.executes State.step
    rw [List.append_nil, List.append_nil]
    unfold State.close
    cases hclosed : h.state.closed with
    | true =>
      rw [if_pos rfl]
      exact ⟨[], .refl r h, hpool⟩
    | false =>
      rw [if_neg Bool.false_ne_true]
      exact ⟨[], .quiet (fun _ hx => hx) rfl rfl fun _ _ => rfl, nofun⟩

theorem exists_advance_run (ops : List Op) :
    ∃ included, Advance r h (h.run r ops) included ∧ PoolVouched r (h.run r ops) := by
  induction ops generalizing h with
  | nil => exact ⟨[], .refl r h, hpool⟩
  | cons op ops ih =>
    obtain ⟨first, hstep, hpool'⟩ := exists_advance_step separate hpool op
    obtain ⟨second, hrest, hpool''⟩ := ih hpool'
    exact ⟨first ++ second, hstep.trans hrest, hpool''⟩

end Separate

/-! ## What may have become of a record -/

/-- What becomes of the record of a namespace and key, which is stored at an address, from one state
of a run to a later one. -/
structure OwnerOnly (r : Rules) (s t : State) (included : List Included) (ns key : Bytes)
    (address : Address) : Prop where
  /-- What is stored there, if anything is, is a record. -/
  reads : ∃ x, Rules.record? t.best address = .ok x
  /-- A record is changed or removed by an update or a delete of its owner's. -/
  changed : ∀ record, Rules.record? s.best address = .ok (some record) →
    t.best.get? address ≠ s.best.get? address →
      ∃ i ∈ included, i.signer = record.owner ∧
        (i.Removes ns key ∨ ∃ data, i.Updates ns key data)
  /-- Its owner stays the same until the owner removes it. -/
  owner_kept : ∀ record, Rules.record? s.best address = .ok (some record) →
    (∀ i ∈ included, i.signer = record.owner → ¬i.Removes ns key) →
      ∃ after, Rules.record? t.best address = .ok (some after) ∧ after.owner = record.owner
  /-- A record appears by a set of its owner's. -/
  appeared : s.best.get? address = none → ∀ raw, t.best.get? address = some raw →
    ∃ record, Record.decode raw = .ok record ∧
      ∃ i ∈ included, i.signer = record.owner ∧ ∃ data, i.Creates ns key data
  /-- It is what the last transaction that touches it leaves behind. -/
  written : ∀ first i rest, included = first ++ i :: rest → ¬i.Leaves ns key →
    (∀ j ∈ rest, j.Leaves ns key) → Rules.record? t.best address = .ok i.written
  /-- No transaction does anything to it that is about another record, or is refused. -/
  untouched : (∀ i ∈ included, i.Leaves ns key) → t.best.get? address = s.best.get? address
  /-- Neither does counting a transaction of whatever account. -/
  counted : ∀ a, (r.bumpNonce a t.best).get? address = t.best.get? address
  funded : ∀ a free, (t.fund r a free).best.get? address = t.best.get? address
  /-- A submission that is refused changes nothing at all. -/
  refused : ∀ x watched e, (t.submit r x watched).1 = .error e → (t.submit r x watched).2 = t

theorem Advance.ownerOnly (separate : r.keys.Separate) (hadvance : Advance r h t included)
    {ns key : Bytes} (hns : ns.length < UInt32.size) (hkey : key.length < UInt32.size)
    {x : Option Record} (hx : Stored r h.state.best ns key x) :
    OwnerOnly r h.state t.state included ns key (r.keys.recordAddress ns key) := by
  obtain ⟨y, hy, htrail⟩ := hadvance.trail ns key hns hkey x hx
  refine ⟨⟨y, hy.record?⟩, ?_, ?_, ?_, ?_, ?_, ?_, ?_, fun _ _ _ => State.submit_refused⟩
  · intro record hrecord hne
    obtain rfl := hx.eq_of_record? hrecord
    refine htrail.changed fun hsame => hne ?_
    rw [hy.get?, hx.get?, hsame]
  · intro record hrecord hkept
    obtain rfl := hx.eq_of_record? hrecord
    obtain ⟨after, rfl, howner⟩ := htrail.owner_kept hkept
    exact ⟨after, hy.record?, howner⟩
  · intro hnone raw hraw
    obtain rfl : x = none := Option.map_eq_none_iff.1 (hx.get?.symm.trans hnone)
    obtain ⟨record, rfl, rfl⟩ := Option.map_eq_some_iff.1 (hy.get?.symm.trans hraw)
    rcases htrail.appeared with ⟨_, hbefore, _⟩ | hcreated
    · cases hbefore
    · exact ⟨record, Record.decode_encode (hy.short record rfl), hcreated⟩
  · rintro first i rest rfl htouches hleaves
    rw [← htrail.eq_written htouches hleaves]
    exact hy.record?
  · intro hleaves
    rw [hy.get?, hx.get?, htrail.eq_of_leaves hleaves]
  · exact fun a => Entries.get?_insert_of_ne (separate.recordAddress_ne ns key a)
  · exact fun a _ => Entries.get?_insert_of_ne (separate.recordAddress_ne ns key a)

/-- **Only its owner can touch a record.** Whatever is done with a ledger, between any two points of a
run its blocks hold transactions that were accepted for their signers, and these say what became of the
record of each namespace and key. -/
theorem run_ownerOnly (c : Config) (separate : (StorageKeys.ofLayout c.layout).Separate)
    (before later : List Op) :
    let r := Rules.ofConfig c
    let h := (Chronicle.initial r).run r before
    let t := h.run r later
    h.state = (State.initial r).run r before ∧
    t.state = (State.initial r).run r (before ++ later) ∧
    ∃ included, Between r h t included ∧
      ∀ ns key address, r.keys.deriveAddress ns key = .ok address →
        OwnerOnly r h.state t.state included ns key address := by
  intro r h t
  have hstate : h.state = (State.initial r).run r before := run_state r _ before
  have hinitial : PoolVouched r (Chronicle.initial r) := nofun
  obtain ⟨first, hfirst, hpool⟩ := exists_advance_run separate hinitial before
  obtain ⟨included, hlater, -⟩ := exists_advance_run separate hpool later
  refine ⟨hstate, ?_, included, hlater.between, ?_⟩
  · have hrun := run_state r h later
    rw [hstate] at hrun
    rw [hrun]
    unfold State.run
    rw [List.foldl_append]
  · intro ns key address haddress
    obtain ⟨hns, hkey, rfl⟩ := StorageKeys.deriveAddress_eq_ok_iff.1 haddress
    have hempty : Stored r (Chronicle.initial r).state.best ns key none := ⟨rfl, nofun⟩
    obtain ⟨x, hx, -⟩ := hfirst.trail ns key hns hkey none hempty
    exact hlater.ownerOnly separate hns hkey hx

theorem run_ownerOnly_outOfOrder :
    let r := Rules.ofConfig {}
    let h := (Chronicle.initial r).run r (Op.outOfOrder.take 2)
    let t := h.run r (Op.outOfOrder.drop 2)
    h.state = (State.initial r).run r (Op.outOfOrder.take 2) ∧
    t.state = (State.initial r).run r (Op.outOfOrder.take 2 ++ Op.outOfOrder.drop 2) ∧
    ∃ included, Between r h t included ∧
      ∀ ns key address, r.keys.deriveAddress ns key = .ok address →
        OwnerOnly r h.state t.state included ns key address := by
  have separate : (StorageKeys.ofLayout {}).Separate := by decide +kernel
  exact run_ownerOnly {} separate _ _

end Chronicle

end MetaLedger.Ledger
