import MetaLedger.Proofs.Ed25519.Neutral
import MetaLedger.Proofs.Extrinsic
import MetaLedger.Proofs.Scale.Composite
import MetaLedger.Proofs.Store.Writing
import MetaLedger.Remote.Client

/-!
# What comes of a watched transaction

The first status that says that a transaction is in a block, or that it is not waited for any longer,
decides (`follow_eq_first`). Of the block, only the events up to the first that reports the
transaction's failure are read (`Tells`), and what they report is turned into a receipt when it is a
success, or an error that the metadata names (`receipt_eq_ok_iff`). So a store that waits for a block
tells of a failure in it as such (`Settles.failed`), except for one without such a name: that one looks
like a transaction that was not handed in (`Settles.unnamed`).
-/

namespace MetaLedger.Remote

open Scale (Reader)
open Store (Task)

/-! ## The first status that decides -/

namespace TxStatus

/-- The block that the transaction is in. -/
def block? : TxStatus → Option BlockHash
  | inBestBlock block | inFinalizedBlock block => some block
  | _ => none

/-- Why the transaction is not waited for any longer. -/
def departure? : TxStatus → Option String
  | invalid message | dropped message | failed message => some message
  | _ => none

/-- No status after this one is looked at. -/
def decides (status : TxStatus) : Bool := status.block?.isSome || status.departure?.isSome

end TxStatus

section Follow

variable {n : WatchNode} {types : RuntimeTypes} {x : Extrinsic} {status : TxStatus}
  {statuses : List TxStatus}

theorem follow_cons_of_block {block : BlockHash} (h : status.block? = some block) :
    n.follow types x (status :: statuses) = n.receipt types x block := by
  cases status <;> cases h <;> rfl

theorem follow_cons_of_departure {message : String} (h : status.departure? = some message) :
    n.follow types x (status :: statuses) = .error (errorOfMessage message) := by
  cases status <;> cases h <;> rfl

theorem follow_cons_of_decides (h : status.decides = true) :
    n.follow types x (status :: statuses) = n.follow types x [status] := by
  cases status with
  | inBestBlock _ | inFinalizedBlock _ | invalid _ | dropped _ | failed _ => rfl
  | validated | broadcasted | retracted => cases h

theorem follow_cons_of_waits (h : status.decides = false) :
    n.follow types x (status :: statuses) = n.follow types x statuses := by
  cases status with
  | validated | broadcasted | retracted => rfl
  | inBestBlock _ | inFinalizedBlock _ | invalid _ | dropped _ | failed _ => cases h

/-- Only the first status that decides matters, if there is one. -/
theorem follow_eq_first (statuses : List TxStatus) :
    n.follow types x statuses = n.follow types x (statuses.find? TxStatus.decides).toList := by
  induction statuses with
  | nil => rfl
  | cons first rest ih =>
    cases hfirst : first.decides with
    | true =>
      rw [List.find?_cons_of_pos hfirst]
      exact follow_cons_of_decides hfirst
    | false =>
      rw [List.find?_cons_of_neg (Bool.eq_false_iff.1 hfirst), follow_cons_of_waits hfirst, ih]

theorem follow_of_block {block : BlockHash} (hfirst : statuses.find? TxStatus.decides = some status)
    (hblock : status.block? = some block) :
    n.follow types x statuses = n.receipt types x block := by
  rw [follow_eq_first, hfirst]
  exact follow_cons_of_block hblock

end Follow

/-! ## What events tell -/

section Events

variable {types : RuntimeTypes} {position : Nat}

/-- No failure is found among events that are all read and report none. -/
theorem firstFailure_eq_none_iff {count : Nat} {input : Bytes} :
    firstFailure types position count input = .ok none ↔
      ∃ events rest, (ChainEvent.read types).times count input = .ok (events, rest) ∧
        ∀ e ∈ events, e.isFailureOf position = false := by
  induction count generalizing input with
  | zero => exact iff_of_true rfl ⟨[], input, rfl, nofun⟩
  | succ count ih =>
    rw [firstFailure]
    constructor
    · intro h
      split at h
      · cases h
      · next first middle hread =>
        split at h
        · cases h
        · next hfirst =>
          obtain ⟨others, rest, hothers, hnone⟩ := ih.1 h
          refine ⟨first :: others, rest, ?_, ?_⟩
          · exact Reader.times_succ_eq_ok_iff.2 ⟨first, middle, hread, others, hothers, rfl⟩
          · exact List.forall_mem_cons.2 ⟨Bool.eq_false_iff.2 hfirst, hnone⟩
    · rintro ⟨_, rest, hevents, hnone⟩
      obtain ⟨first, middle, hread, others, hothers, rfl⟩ := Reader.times_succ_eq_ok_iff.1 hevents
      obtain ⟨hfirst, hnone⟩ := List.forall_mem_cons.1 hnone
      simp only [hread, hfirst, Bool.false_eq_true, if_false]
      exact ih.2 ⟨others, rest, hothers, hnone⟩

/-- The failure that is found is that of the first event to report one. -/
theorem firstFailure_eq_some_iff {count : Nat} {input fields : Bytes} :
    firstFailure types position count input = .ok (some fields) ↔
      ∃ before e rest, before.length < count ∧
        (ChainEvent.read types).times (before.length + 1) input = .ok (before ++ [e], rest) ∧
        (∀ b ∈ before, b.isFailureOf position = false) ∧ e.isFailureOf position = true ∧
        e.fields = fields := by
  induction count generalizing input with
  | zero => exact iff_of_false nofun fun ⟨_, _, _, hlength, _⟩ => absurd hlength (Nat.not_lt_zero _)
  | succ count ih =>
    rw [firstFailure]
    constructor
    · intro h
      split at h
      · cases h
      · next first middle hread =>
        split at h
        · next hfirst =>
          cases h
          refine ⟨[], first, middle, Nat.succ_pos _, ?_, nofun, hfirst, rfl⟩
          exact Reader.times_succ_eq_ok_iff.2 ⟨first, middle, hread, [], rfl, rfl⟩
        · next hfirst =>
          obtain ⟨before, e, rest, hlength, hothers, hbefore, hfailure, rfl⟩ := ih.1 h
          refine ⟨first :: before, e, rest, Nat.succ_lt_succ hlength, ?_,
            List.forall_mem_cons.2 ⟨Bool.eq_false_iff.2 hfirst, hbefore⟩, hfailure, rfl⟩
          exact Reader.times_succ_eq_ok_iff.2 ⟨first, middle, hread, _, hothers, rfl⟩
    · rintro ⟨before, e, rest, hlength, hevents, hbefore, hfailure, rfl⟩
      obtain ⟨first, middle, hread, others, hothers, hsplit⟩ :=
        Reader.times_succ_eq_ok_iff.1 hevents
      cases before with
      | nil =>
        cases hsplit
        simp only [hread, hfailure, if_true]
      | cons b before =>
        cases hsplit
        obtain ⟨hfirst, hbefore⟩ := List.forall_mem_cons.1 hbefore
        simp only [hread, hfirst, Bool.false_eq_true, if_false]
        exact ih.2 ⟨before, e, rest, Nat.lt_of_succ_lt_succ hlength, hothers, hbefore, hfailure, rfl⟩

/-- What the events of a block, if there are any, tell of the transaction at a position: the fields of
its failure, if it failed. -/
inductive Tells (types : RuntimeTypes) (position : Nat) : Option Bytes → Option Bytes → Prop
  | silent : Tells types position none none
  | uncounted {events : Bytes} {e : Scale.Error} (hcount : Scale.compact .u32 events = .error e) :
      Tells types position (some events) none
  | success {events input rest : Bytes} {count : Nat} {found : List ChainEvent}
      (hcount : Scale.compact .u32 events = .ok (count, input))
      (hread : (ChainEvent.read types).times count input = .ok (found, rest))
      (hnone : ∀ e ∈ found, e.isFailureOf position = false) :
      Tells types position (some events) none
  | failure {events input rest : Bytes} {count : Nat} {before : List ChainEvent} {e : ChainEvent}
      (hcount : Scale.compact .u32 events = .ok (count, input)) (hlength : before.length < count)
      (hread : (ChainEvent.read types).times (before.length + 1) input = .ok (before ++ [e], rest))
      (hbefore : ∀ b ∈ before, b.isFailureOf position = false)
      (hfailure : e.isFailureOf position = true) :
      Tells types position (some events) (some e.fields)

theorem failureIn_eq_ok_iff {events : Bytes} {failure : Option Bytes} :
    failureIn types position events = .ok failure ↔ Tells types position (some events) failure := by
  constructor
  · intro h
    unfold failureIn at h
    split at h
    · next hcount =>
      cases failure with
      | none =>
        obtain ⟨found, rest, hread, hnone⟩ := firstFailure_eq_none_iff.1 h
        exact .success hcount hread hnone
      | some fields =>
        obtain ⟨before, e, rest, hlength, hread, hbefore, hfailure, rfl⟩ :=
          firstFailure_eq_some_iff.1 h
        exact .failure hcount hlength hread hbefore hfailure
    · next hcount =>
      cases h
      exact .uncounted hcount
  · intro h
    unfold failureIn
    cases h with
    | uncounted hcount => rw [hcount]
    | success hcount hread hnone =>
      rw [hcount]
      exact firstFailure_eq_none_iff.2 ⟨_, _, hread, hnone⟩
    | failure hcount hlength hread hbefore hfailure =>
      rw [hcount]
      exact firstFailure_eq_some_iff.2 ⟨_, _, _, hlength, hread, hbefore, hfailure, rfl⟩

/-! ## The reason of a failure -/

/-- The fields of a failure point at an error of a pallet, and the metadata has its name. -/
def RuntimeTypes.Names (types : RuntimeTypes) (fields : Bytes) (name : String) : Prop :=
  ∃ palletIndex index pallet v, moduleError? types fields = some (palletIndex, index) ∧
    types.pallet? palletIndex = some pallet ∧ types.variant? pallet.error index = some v ∧
    v.name = name

variable {w : Wording}

theorem reasonOf_eq_ok_iff {fields : Bytes} {reason : DispatchError} :
    reasonOf w types fields = .ok reason ↔
      ∃ name, types.Names fields name ∧ DispatchError.ofName name = reason := by
  constructor
  · intro h
    unfold reasonOf at h
    split at h
    · cases h
    · next hmodule =>
      split at h
      · cases h
      · next hpallet =>
        split at h
        · cases h
        · next hvariant =>
          cases h
          exact ⟨_, ⟨_, _, _, _, hmodule, hpallet, hvariant, rfl⟩, rfl⟩
  · rintro ⟨_, ⟨palletIndex, index, pallet, v, hmodule, hpallet, hvariant, rfl⟩, rfl⟩
    simp only [reasonOf, hmodule, hpallet, hvariant]

variable (w) in
theorem exists_reasonOf_eq_error {fields : Bytes} (h : ∀ name, ¬types.Names fields name) :
    ∃ e, reasonOf w types fields = .error e := by
  cases hreason : reasonOf w types fields with
  | error e => exact ⟨e, rfl⟩
  | ok reason =>
    obtain ⟨name, hnames, -⟩ := reasonOf_eq_ok_iff.1 hreason
    exact absurd hnames (h name)

/-- How a transaction is said to have ended, by the fields of its failure, if it failed. -/
inductive Concludes (types : RuntimeTypes) : Option Bytes → Outcome → Prop
  | success : Concludes types none .success
  | failed {fields : Bytes} {name : String} (hnames : types.Names fields name) :
      Concludes types (some fields) (.failed (.ofName name))

theorem outcomeOf_eq_ok_iff {events : Option Bytes} {outcome : Outcome} :
    outcomeOf w types position events = .ok outcome ↔
      ∃ failure, Tells types position events failure ∧ Concludes types failure outcome := by
  constructor
  · intro h
    unfold outcomeOf at h
    split at h
    · cases h
      exact ⟨none, .silent, .success⟩
    · split at h
      · cases h
      · next htold =>
        cases h
        exact ⟨none, failureIn_eq_ok_iff.1 htold, .success⟩
      · next fields htold =>
        split at h
        · next hreason =>
          cases h
          obtain ⟨name, hnames, rfl⟩ := reasonOf_eq_ok_iff.1 hreason
          exact ⟨some fields, failureIn_eq_ok_iff.1 htold, .failed hnames⟩
        · cases h
  · rintro ⟨failure, htells, hconcludes⟩
    cases events with
    | none =>
      cases htells
      cases hconcludes
      rfl
    | some events =>
      have htold := failureIn_eq_ok_iff.2 htells
      cases hconcludes with
      | success => simp only [outcomeOf, htold]
      | failed hnames =>
        simp only [outcomeOf, htold, reasonOf_eq_ok_iff.2 ⟨_, hnames, rfl⟩]

end Events

/-! ## The block -/

/-- The block that a transaction is in, as the node tells of it: its number, and what its events tell
of the transaction. -/
structure Includes (n : WatchNode) (types : RuntimeTypes) (x : Extrinsic) (block : BlockHash)
    (number : Nat) (failure : Option Bytes) : Prop where
  number_eq : n.number block = .ok number
  told : ∃ body position events, n.body block = .ok body ∧
    body.findIdx? (· = x.encode) = some position ∧ n.events block = .ok events ∧
    Tells types position events failure

section Block

variable {n : WatchNode} {types : RuntimeTypes} {x : Extrinsic} {block : BlockHash} {number : Nat}

theorem answer_eq_ok_iff {α : Type} {result : Except String α} {value : α} :
    WatchNode.answer result = .ok value ↔ result = .ok value := by
  cases result with
  | error message => exact iff_of_false nofun nofun
  | ok found => constructor <;> intro h <;> cases h <;> rfl

/-- There is a receipt for a transaction in a block exactly if the block says how it ended. -/
theorem receipt_eq_ok_iff {receipt : Receipt} :
    n.receipt types x block = .ok receipt ↔
      ∃ number failure outcome, Includes n types x block number failure ∧
        Concludes types failure outcome ∧ receipt = ⟨x.hash, block, number, outcome⟩ := by
  unfold WatchNode.receipt
  simp only [Extrinsic.bind_eq_ok_iff, answer_eq_ok_iff]
  constructor
  · rintro ⟨number, hnumber, body, hbody, h⟩
    split at h
    · cases h
    · next position hposition =>
      simp only [Extrinsic.bind_eq_ok_iff, answer_eq_ok_iff] at h
      obtain ⟨events, hevents, outcome, houtcome, h⟩ := h
      cases h
      obtain ⟨failure, htells, hconcludes⟩ := outcomeOf_eq_ok_iff.1 houtcome
      exact ⟨number, failure, outcome,
        ⟨hnumber, body, position, events, hbody, hposition, hevents, htells⟩, hconcludes, rfl⟩
  · rintro ⟨number, failure, outcome, ⟨hnumber, body, position, events, hbody, hposition, hevents,
      htells⟩, hconcludes, rfl⟩
    refine ⟨number, hnumber, body, hbody, ?_⟩
    simp only [hposition, Extrinsic.bind_eq_ok_iff, answer_eq_ok_iff]
    exact ⟨events, hevents, outcome, outcomeOf_eq_ok_iff.2 ⟨failure, htells, hconcludes⟩, rfl⟩

theorem receipt_of_includes {fields : Bytes} {e : Node.Error}
    (h : Includes n types x block number (some fields)) (hreason : reasonOf n.wording types fields = .error e) :
    n.receipt types x block = .error e := by
  obtain ⟨hnumber, body, position, events, hbody, hposition, hevents, htells⟩ := h
  have houtcome : outcomeOf n.wording types position events = .error e := by
    cases events with
    | none => cases htells
    | some events => simp only [outcomeOf, failureIn_eq_ok_iff.2 htells, hreason]
  simp only [WatchNode.receipt, answer_eq_ok_iff.2 hnumber, answer_eq_ok_iff.2 hbody, hposition,
    answer_eq_ok_iff.2 hevents, houtcome, bind, Except.bind]

end Block

/-! ## What is answered -/

/-- The answer that watching a transaction comes to, by the statuses it is told of. -/
structure Settles (n : WatchNode) (types : RuntimeTypes) (x : Extrinsic) (statuses : List TxStatus)
    (reply : Except Node.Error Receipt) : Prop where
  /-- No status decides. -/
  unheard : statuses.find? TxStatus.decides = none → reply = .error (.transport .subscriptionEnded)
  /-- The transaction was given up before it was seen in a block, and that is no receipt. -/
  departed : ∀ status message, statuses.find? TxStatus.decides = some status →
    status.departure? = some message → reply = .error (errorOfMessage message)
  /-- A receipt is for the block that the first status to decide names, and says how the transaction
  ended there. -/
  receipt_iff : ∀ status block receipt, statuses.find? TxStatus.decides = some status →
    status.block? = some block →
    (reply = .ok receipt ↔ ∃ number failure outcome, Includes n types x block number failure ∧
      Concludes types failure outcome ∧ receipt = ⟨x.hash, block, number, outcome⟩)
  /-- A failure that has a name is told as a failure in the block, and it is none if what was to be
  removed was not there. -/
  failed : ∀ status block number fields name, statuses.find? TxStatus.decides = some status →
    status.block? = some block → Includes n types x block number (some fields) →
    types.Names fields name →
    reply = .ok ⟨x.hash, block, number, .failed (.ofName name)⟩ ∧
      ∀ op kind, (Task.inclusion op kind x).resume reply =
        if DispatchError.ofName name = .metadataNotFound ∧ kind = .delete then .done
        else .failed ⟨.dispatch block (.ofName name), some (op, .awaitInclusion)⟩
  /-- A failure without a name is told as if the transaction had not been handed in. -/
  unnamed : ∀ status block number fields, statuses.find? TxStatus.decides = some status →
    status.block? = some block → Includes n types x block number (some fields) →
    (∀ name, ¬types.Names fields name) →
    ∃ e, reasonOf n.wording types fields = .error e ∧ reply = .error e ∧
      ∀ op kind, (Task.inclusion op kind x).resume reply =
        .failed ⟨.submission e, some (op, .submit)⟩

/-- A store that waits for the block tells of a failure in it. -/
theorem resume_failed (op : Store.Operation) (kind : CallKind) (x : Extrinsic) (tx : TxHash)
    (block : BlockHash) (number : Nat) (reason : DispatchError) :
    (Task.inclusion op kind x).resume (.ok ⟨tx, block, number, .failed reason⟩) =
      if reason = .metadataNotFound ∧ kind = .delete then .done
      else .failed ⟨.dispatch block reason, some (op, .awaitInclusion)⟩ := by
  rw [Store.resume_inclusion]
  unfold Store.told Store.outcomeOfReceipt
  by_cases hgone : reason = .metadataNotFound ∧ kind = .delete
  · simp only [if_pos hgone]
    rfl
  · simp only [if_neg hgone]
    rfl

theorem follow_settles (n : WatchNode) (types : RuntimeTypes) (x : Extrinsic)
    (statuses : List TxStatus) : Settles n types x statuses (n.follow types x statuses) := by
  refine ⟨?_, ?_, ?_, ?_, ?_⟩
  · intro hnone
    rw [follow_eq_first, hnone]
    rfl
  · intro status message hfirst hdeparture
    rw [follow_eq_first, hfirst]
    exact follow_cons_of_departure hdeparture
  · intro status block receipt hfirst hblock
    rw [follow_of_block hfirst hblock]
    exact receipt_eq_ok_iff
  · intro status block number fields name hfirst hblock hincludes hnames
    have hreceipt : n.receipt types x block =
        .ok ⟨x.hash, block, number, .failed (.ofName name)⟩ :=
      receipt_eq_ok_iff.2 ⟨number, some fields, _, hincludes, .failed hnames, rfl⟩
    rw [follow_of_block hfirst hblock, hreceipt]
    exact ⟨rfl, fun op kind => resume_failed op kind x _ _ _ _⟩
  · intro status block number fields hfirst hblock hincludes hunnamed
    obtain ⟨e, hreason⟩ := exists_reasonOf_eq_error n.wording hunnamed
    rw [follow_of_block hfirst hblock, receipt_of_includes hincludes hreason]
    exact ⟨e, hreason, rfl, fun _ _ => rfl⟩

section Serve

variable {c : Client} {net : Network} {types : RuntimeTypes} {x : Extrinsic}
  {statuses : List TxStatus} (hconnected : c.connected net = .ok types)
  (hsubmit : net.watchNode.submit x.encode = .ok statuses)

include hconnected hsubmit

theorem serve_eq_follow :
    (c.serve net (.submitAndWatch x)).1 = net.watchNode.follow types x statuses := by
  show (c.watch net x).1 = _
  unfold Client.watch WatchNode.watch
  rw [hconnected, hsubmit]
  rfl

/-- **The first status that decides.** Whatever the statuses are, those before the first that names a
block or gives the transaction up have no part in the answer, and nor have those after it. -/
theorem submitAndWatch_settles :
    Settles net.watchNode types x statuses (c.serve net (.submitAndWatch x)).1 := by
  rw [serve_eq_follow hconnected hsubmit]
  exact follow_settles _ _ _ _

end Serve

/-! ## A block with one failure -/

/-- A runtime where a transaction may fail with the error of a pallet or without one. -/
def failingTypes : RuntimeTypes where
  types :=
    let of (id : Metadata.TypeId) : Metadata.Field := ⟨none, id, none, []⟩
    [⟨0, ["frame_system", "pallet", "Event"], [],
        .variant [⟨"ExtrinsicFailed", [of 1, of 4], 1, []⟩], []⟩,
      ⟨1, failurePath, [],
        .variant [⟨"BadOrigin", [], 2, []⟩, ⟨"Module", [of 2, of 3], 3, []⟩], []⟩,
      ⟨2, [], [], .primitive .u8, []⟩,
      ⟨3, [], [], .array 4 2, []⟩,
      ⟨4, [], [], .primitive .u32, []⟩,
      ⟨5, ["pallet_template", "pallet", "Error"], [],
        .variant [⟨"MetadataNotFound", [], 1, []⟩], []⟩]
  pallets :=
    [⟨"System", none, none, some 0, [], none, 0, []⟩,
      ⟨"TemplateModule", none, none, none, [], some 5, 8, []⟩]

/-- A node that takes a transaction into a block, where it fails. -/
def failingNode (w : Wording) (x : Extrinsic) (block : BlockHash) (failure : Bytes) : WatchNode where
  metadata := .error TxStatus.droppedMessage
  submit _ := .ok [.validated, .inBestBlock block, .invalid TxStatus.usurpedMessage]
  number _ := .ok 1
  body _ := .ok [x.encode]
  events _ := .ok (some ([4, 0, 0, 0, 0, 0, 0, 1] ++ failure ++ [0]))
  wording := w

theorem includes_failingNode {w : Wording} {x : Extrinsic} {block : BlockHash} {failure : Bytes}
    (hread : ChainEvent.read failingTypes ([0, 0, 0, 0, 0, 0, 1] ++ failure ++ [0]) =
      .ok (⟨.extrinsic 0, "System", "ExtrinsicFailed", failure⟩, [])) :
    Includes (failingNode w x block failure) failingTypes x block 1 (some failure) := by
  let e : ChainEvent := ⟨.extrinsic 0, "System", "ExtrinsicFailed", failure⟩
  have hcount : Scale.compact .u32 ([4, 0, 0, 0, 0, 0, 0, 1] ++ failure ++ [0]) =
      .ok (1, [0, 0, 0, 0, 0, 0, 1] ++ failure ++ [0]) := rfl
  have hevents : (ChainEvent.read failingTypes).times 1 ([0, 0, 0, 0, 0, 0, 1] ++ failure ++ [0]) =
      .ok ([e], []) :=
    Reader.times_succ_eq_ok_iff.2 ⟨e, [], hread, [], rfl, rfl⟩
  have hfailure : e.isFailureOf 0 = true := by simp [ChainEvent.isFailureOf, e]
  have hlength : ([] : List ChainEvent).length < 1 := Nat.one_pos
  have htells : Tells failingTypes 0 (some ([4, 0, 0, 0, 0, 0, 0, 1] ++ failure ++ [0]))
      (some failure) :=
    .failure hcount hlength hevents nofun hfailure
  have hposition : [x.encode].findIdx? (· = x.encode) = some 0 := by simp
  exact ⟨rfl, [x.encode], 0, _, rfl, hposition, rfl, htells⟩

open Ed25519 (neutralKey) in
/-- A pallet has refused to change a record that is not there. -/
theorem submitAndWatch_settles_absent :
    let x : Extrinsic := .neutral neutralKey 0 ((Call.delete [7] [1]).encodeAt ⟨8, 1⟩)
    let n := failingNode default x .zero [3, 8, 1, 0, 0, 0, 0, 0, 0, 0]
    let c : Client := { config := {}, watching := some failingTypes }
    let net : Network := ⟨fun _ => none, n⟩
    let statuses : List TxStatus :=
      [.validated, .inBestBlock .zero, .invalid TxStatus.usurpedMessage]
    let reply := (c.serve net (.submitAndWatch x)).1
    c.connected net = .ok failingTypes ∧ n.submit x.encode = .ok statuses ∧
      Settles n failingTypes x statuses reply ∧
      reply = .ok ⟨x.hash, .zero, 1, .failed .metadataNotFound⟩ ∧
      (Task.inclusion .delete .delete x).resume reply = .done ∧
      (Task.inclusion .update .update x).resume reply =
        .failed ⟨.dispatch .zero .metadataNotFound, some (.update, .awaitInclusion)⟩ := by
  intro x n c net statuses reply
  have hsettles : Settles n failingTypes x statuses reply :=
    @submitAndWatch_settles c net failingTypes x statuses rfl rfl
  have hincludes : Includes n failingTypes x .zero 1 (some [3, 8, 1, 0, 0, 0, 0, 0, 0, 0]) :=
    includes_failingNode rfl
  have hmodule : moduleError? failingTypes [3, 8, 1, 0, 0, 0, 0, 0, 0, 0] = some (8, 1) := by
    decide +kernel
  have hnames : failingTypes.Names [3, 8, 1, 0, 0, 0, 0, 0, 0, 0] "MetadataNotFound" :=
    ⟨8, 1, _, _, hmodule, rfl, rfl, rfl⟩
  obtain ⟨hok, hresume⟩ := hsettles.failed (.inBestBlock .zero) .zero 1 _ _ rfl rfl hincludes hnames
  have hreason : DispatchError.ofName "MetadataNotFound" = .metadataNotFound := by decide
  rw [hreason] at hok
  refine ⟨rfl, rfl, hsettles, hok, ?_, ?_⟩
  · rw [hresume .delete .delete, if_pos ⟨hreason, rfl⟩]
  · rw [hresume .update .update, if_neg (by decide), hreason]

open Ed25519 (neutralKey) in
/-- A failure that is no pallet's: the transaction is in the block, and yet there is no receipt,
whatever is said of the failure. -/
theorem submitAndWatch_badOrigin :
    let x : Extrinsic := .neutral neutralKey 0 ((Call.set [7] [1] [2]).encodeAt ⟨8, 0⟩)
    let c : Client := { config := {}, watching := some failingTypes }
    let statuses : List TxStatus :=
      [.validated, .inBestBlock .zero, .invalid TxStatus.usurpedMessage]
    ∀ w : Wording,
      let n := failingNode w x .zero [2, 0, 0, 0, 0]
      let net : Network := ⟨fun _ => none, n⟩
      let reply := (c.serve net (.submitAndWatch x)).1
      c.connected net = .ok failingTypes ∧ n.submit x.encode = .ok statuses ∧
        statuses.find? TxStatus.decides = some (.inBestBlock .zero) ∧
        Includes n failingTypes x .zero 1 (some [2, 0, 0, 0, 0]) ∧
        (¬∃ receipt, reply = .ok receipt) ∧
        (Task.inclusion .set .set x).resume reply =
          .failed ⟨.submission (errorOfMessage (w.failedTransaction [2, 0, 0, 0, 0])),
            some (.set, .submit)⟩ := by
  intro x c statuses w n net reply
  have hincludes : Includes n failingTypes x .zero 1 (some [2, 0, 0, 0, 0]) :=
    includes_failingNode rfl
  have hmodule : moduleError? failingTypes [2, 0, 0, 0, 0] = none := by decide +kernel
  have hreason : reasonOf w failingTypes [2, 0, 0, 0, 0] =
      .error (errorOfMessage (w.failedTransaction [2, 0, 0, 0, 0])) := by
    simp only [reasonOf, hmodule]
  have hreply : reply = .error (errorOfMessage (w.failedTransaction [2, 0, 0, 0, 0])) := by
    have hfollow : reply = n.follow failingTypes x statuses := serve_eq_follow rfl rfl
    rw [hfollow]
    exact receipt_of_includes hincludes hreason
  refine ⟨rfl, rfl, rfl, hincludes, ?_, ?_⟩
  · rw [hreply]
    rintro ⟨receipt, hreceipt⟩
    cases hreceipt
  · rw [hreply]
    rfl

end MetaLedger.Remote
