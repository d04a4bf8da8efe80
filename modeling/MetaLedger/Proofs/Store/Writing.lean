import MetaLedger.Proofs.Ledger.Quiet
import MetaLedger.Proofs.Store.Holds
import MetaLedger.Proofs.Workbench.Completion

/-!
# A write, from the nonce to the block

A write reads the nonce of its account, signs its call at this nonce, and hands it in. At a quiet
ledger the transaction is accepted and executed in a block of its own, so the map changes as the call
says, and a store that waits for the block is told how the call ended (`Serves.write`).
-/

namespace MetaLedger

/-- The signer signs everything, and its signatures hold for its account. -/
def Signer.Honest (s : Signer) : Prop :=
  ∀ payload, ∃ signature, s.sign payload = .ok signature ∧
    Ed25519.verify s.account.raw payload signature = .valid

theorem Signer.Honest.extrinsic {s : Signer} (h : s.Honest) (chain : ChainBinding) (nonce : Nonce)
    (call : EncodedCall) :
    ∃ x, s.extrinsic chain nonce call = .ok x ∧ x.signer = s.account ∧ x.nonce = nonce ∧
      x.call = call ∧ x.verify chain = .ok () := by
  obtain ⟨signature, hsign, hverify⟩ := h (signingPayload call { nonce } chain)
  refine ⟨⟨s.account, signature, { nonce }, call⟩, ?_, rfl, rfl, rfl, ?_⟩
  · unfold Signer.extrinsic
    simp only [hsign]
  · unfold Extrinsic.verify
    simp only [hverify]

namespace Store

open Ledger (Rules Entries State PoolEntry)
open Workbench (Completes)

/-- A ledger that seals at once, asks for no funds, and tells names, positions and addresses apart. -/
structure Fitting (c : Ledger.Config) : Prop where
  instant : c.sealMode = .instant
  free : c.requireFunded = false
  layout : c.layout.Distinct
  indices : c.indices.Distinct
  separate : (StorageKeys.ofLayout c.layout).Separate

/-- An open store that has been connected to such a ledger. -/
structure Attached (c : Ledger.Config) (o : Opened) : Prop where
  session : o.session = c.session
  honest : o.signer.Honest
  absent : o.config.absentAccount = .assumeZero
  pageSize : o.config.pageSize ≠ 0

/-- A ledger between two operations, with the records that it holds. -/
structure Serves (r : Rules) (s : State) (m : Contents) : Prop where
  quiet : State.Quiet s
  holds : Holds r s.best m

theorem serves_initial (r : Rules) : Serves r (State.initial r) .empty :=
  ⟨State.quiet_initial r, Holds.empty r⟩

variable {c : Ledger.Config} {o : Opened} {r : Rules} {s : State} {m : Contents}

theorem serve_storage (hopen : s.closed = false) (address : Address) :
    s.serve r (.storage address none) = (.reply (.ok (s.best.get? address)), s) := by
  unfold State.serve State.storage
  rw [hopen]
  rfl

theorem serve_submit {x : Extrinsic} {reply : Except Node.Error TxHash} {t : State}
    (h : s.submit r x false = (reply, t)) : s.serve r (.submit x) = (.reply reply, t) := by
  simp only [State.serve, h]

theorem serve_submitAndWatch {x : Extrinsic} {tx : TxHash} {t : State}
    (h : s.submit r x true = (.ok tx, t)) :
    s.serve r (.submitAndWatch x) = (.waiting s.nextTicket, t) := by
  simp only [State.serve, h]

/-! ## The nonce -/

theorem Holds.nonceFor_eq (h : Holds r s.best m) (absent : o.config.absentAccount = .assumeZero)
    (op : Operation) (a : AccountId) :
    o.nonceFor op (.ok (s.best.get? (r.keys.accountAddress a))) = .ok (r.nonce s.best a) := by
  unfold Opened.nonceFor nonceOfReply Rules.nonce
  rw [h.accounts]
  cases r.accountInfo? s.best a with
  | none =>
    simp only [Option.map_none]
    rw [if_pos]
    rw [absent]
    rfl
  | some info => simp only [Option.map_some, AccountInfo.decodeNonce_encode]

/-! ## The verdict -/

/-- What a store gives back for the outcome of its call. -/
def told (mode : SubmissionMode) (op : Operation) (kind : CallKind) (receipt : Receipt) :
    Except Error Output :=
  match mode with
  | .pool => .ok .done
  | .inBlock =>
    match outcomeOfReceipt op kind receipt with
    | .ok _ => .ok .done
    | .error e => .error e

/-- Who waited for the block gives back what became of the call. -/
theorem resume_inclusion (op : Operation) (kind : CallKind) (x : Extrinsic) (receipt : Receipt) :
    (Task.inclusion op kind x).resume (.ok receipt) =
      .ended [] (told .inBlock op kind receipt) := by
  show Progress.andThen (outcomeOfReceipt op kind receipt) _ = _
  unfold Progress.andThen told
  cases outcomeOfReceipt op kind receipt with
  | ok _ => rfl
  | error e => rfl

section Verdict

variable {mode : SubmissionMode} {op : Operation} {tx : TxHash} {block : BlockHash} {number : Nat}
  {account : AccountId} {ns key : Bytes}

/-- How a call ends that only the owner of a record is allowed. -/
def Contents.permission (m : Contents) (account : AccountId) (ns key : Bytes) : Outcome :=
  if m.isForeign account ns key then .failed .noPermissions else .success

theorem told_permission (kind : CallKind) :
    told mode op kind ⟨tx, block, number, m.permission account ns key⟩ =
      m.verdict account mode op ns key block := by
  unfold told Contents.verdict Contents.permission outcomeOfReceipt
  cases mode with
  | pool => rfl
  | inBlock =>
    cases m.isForeign account ns key with
    | false => rfl
    | true => rfl

/-- That a record is gone already is no failure of a removal. -/
theorem told_metadataNotFound (h : m ns key = none) :
    told mode op .delete ⟨tx, block, number, .failed .metadataNotFound⟩ =
      m.verdict account mode op ns key block := by
  have hforeign : m.isForeign account ns key = false := by
    unfold Contents.isForeign
    rw [h]
  unfold told Contents.verdict outcomeOfReceipt
  rw [hforeign]
  cases mode with
  | pool => rfl
  | inBlock => rfl

end Verdict

/-! ## The calls of the commands -/

section Calls

variable {account : AccountId} {ns key : Bytes}

theorem Contents.isForeign_of_none (h : m ns key = none) : m.isForeign account ns key = false := by
  unfold isForeign
  rw [h]

theorem Contents.isForeign_of_some {record : Record} (h : m ns key = some record) :
    m.isForeign account ns key = decide (record.owner ≠ account) := by
  unfold isForeign
  rw [h]

theorem Contents.call_update {record : Record} (h : m ns key = some record) (data : Bytes) :
    m.call account (.update ns key data) =
      (m.change account ns key (some ⟨data, account⟩), m.permission account ns key) := by
  unfold call change permission
  rw [isForeign_of_some h]
  by_cases howner : record.owner = account
  · simp [h, howner]
  · simp [h, howner]

theorem Contents.call_set (h : m ns key = none) (data : Bytes) :
    m.call account (.set ns key data) =
      (m.change account ns key (some ⟨data, account⟩), m.permission account ns key) := by
  unfold call change permission
  rw [isForeign_of_none h]
  simp [h]

theorem Contents.call_delete {record : Record} (h : m ns key = some record) :
    m.call account (.delete ns key) =
      (m.change account ns key none, m.permission account ns key) := by
  unfold call change permission
  rw [isForeign_of_some h]
  by_cases howner : record.owner = account
  · simp [h, howner]
  · simp [h, howner]

theorem Contents.call_delete_none (h : m ns key = none) :
    m.call account (.delete ns key) =
      (m.change account ns key none, .failed .metadataNotFound) := by
  unfold call change
  rw [isForeign_of_none h]
  simp [h, put_none]

end Calls

/-! ## Writing -/

section Write

variable (fit : Fitting c) (att : Attached c o)

include fit att in
/-- A signed transaction that the ledger accepts, and what the ledger makes of it. -/
theorem Serves.submit (h : Serves (Rules.ofConfig c) s m) {call : Call} (hshort : call.Short)
    (watched : Bool) :
    ∃ x t, o.sign ((Rules.ofConfig c).nonce s.best o.signer.account) call = .ok x ∧
      s.submit (Rules.ofConfig c) x watched = (.ok x.hash, t) ∧
      Serves (Rules.ofConfig c) t (m.call o.signer.account call).1 ∧
      (watched = true → t.answer? s.nextTicket =
        some (.ok ⟨x.hash, t.head, t.number, (m.call o.signer.account call).2⟩)) := by
  obtain ⟨x, hextrinsic, hsigner, hnonce, hcall, hverify⟩ := att.honest.extrinsic
    o.session.chain ((Rules.ofConfig c).nonce s.best o.signer.account) (o.session.encodeCall call)
  have hsign : o.sign ((Rules.ofConfig c).nonce s.best o.signer.account) call = .ok x := by
    unfold Opened.sign
    rw [hextrinsic]
  have hread : (Rules.ofConfig c).call? x.call = some call := by
    rw [hcall, att.session, Session.encodeCall, c.session_callIndex]
    exact Rules.call?_encodeAt fit.indices hshort
  rw [att.session] at hverify
  have hvalid := h.quiet.valid fit.free hverify hread (by rw [hnonce, hsigner])
  obtain ⟨t, hsubmit, hquiet, hbest, hanswer⟩ := h.quiet.submit fit.instant hvalid watched
  obtain ⟨hholds, houtcome⟩ := h.holds.execute fit.separate ⟨x.hash, x, call⟩ hshort
  rw [← hbest] at hholds
  simp only [PoolEntry.signer, hsigner] at hholds houtcome
  rw [houtcome] at hanswer
  exact ⟨x, t, hsign, hsubmit, ⟨hquiet, hholds⟩, hanswer⟩

include fit att in
/-- **A write runs through** in at most three moves, and its result is that of its call. -/
theorem Serves.write (h : Serves (Rules.ofConfig c) s m) (op : Operation) {call : Call}
    (hshort : call.Short) :
    ∃ moves t tx number, moves ≤ 3 ∧
      Completes (Rules.ofConfig c) s (.running (.nonce o op call)) moves t []
        (told o.config.submission op call.kind
          ⟨tx, t.head, number, (m.call o.signer.account call).2⟩) ∧
      Serves (Rules.ofConfig c) t (m.call o.signer.account call).1 := by
  obtain ⟨signer, config, session⟩ := o
  have hsession : session = c.session := att.session
  subst hsession
  have hserve : s.serve (Rules.ofConfig c)
      (.storage ((Rules.ofConfig c).keys.accountAddress signer.account) none) =
      (.reply (.ok (s.best.get? ((Rules.ofConfig c).keys.accountAddress signer.account))), s) :=
    serve_storage h.quiet.isOpen _
  have hnonce := h.holds.nonceFor_eq att.absent op signer.account
  cases hmode : config.submission with
  | pool =>
    obtain ⟨x, t, hsign, hsubmit, hnext, -⟩ := h.submit fit att hshort false
    refine ⟨2, t, x.hash, t.number, by decide, .reply hserve ?_, hnext⟩
    simp only [Task.resume, hnonce, hsign, Progress.andThen, Task.submit, hmode]
    exact .reply (serve_submit hsubmit) .ended
  | inBlock =>
    obtain ⟨x, t, hsign, hsubmit, hnext, hanswer⟩ := h.submit fit att hshort true
    have hreceipt : (t.answer? s.nextTicket).bind (Node.Request.submitAndWatch x).replyOfReceipt? =
        some (.ok ⟨x.hash, t.head, t.number, (m.call signer.account call).2⟩) := by
      rw [hanswer rfl]
      rfl
    refine ⟨3, t, x.hash, t.number, by decide, .reply hserve ?_, hnext⟩
    simp only [Task.resume, hnonce, hsign, Progress.andThen, Task.submit, hmode]
    refine .ticket (serve_submitAndWatch hsubmit) hreceipt ?_
    rw [resume_inclusion]
    exact .ended

end Write

end Store

end MetaLedger
