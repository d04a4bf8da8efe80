import MetaLedger.Proofs.Store.Filed
import MetaLedger.Proofs.Store.Listing

/-!
# From step to step of an operation

What an operation sets off with is said once for all commands (`start_cases`), and what it goes on with
after a reply is followed through its checks by `Goes`. The first use is that a store of a ledger reads
only where the ledger files records and accounts (`Reads`), so that it can read what it finds there
(`Reads.resume`).
-/

namespace MetaLedger

theorem Signer.extrinsic_eq_ok {s : Signer} {chain : ChainBinding} {nonce : Nonce}
    {call : EncodedCall} {x : Extrinsic} (h : s.extrinsic chain nonce call = .ok x) :
    ∃ signature, s.sign (signingPayload call ⟨nonce, 0, .immortal⟩ chain) = .ok signature ∧
      x = ⟨s.account, signature, ⟨nonce, 0, .immortal⟩, call⟩ := by
  unfold Signer.extrinsic at h
  cases hsignature : s.sign (signingPayload call ⟨nonce, 0, .immortal⟩ chain) with
  | error failure =>
    simp only [hsignature] at h
    cases h
  | ok signature =>
    simp only [hsignature] at h
    cases h
    exact ⟨signature, rfl, rfl⟩

namespace Store

open Ledger (Rules Entries State)
open Progress (andThen)

/-! ## Setting off -/

/-- The task that a command begins with. -/
inductive Begins (o : Opened) : Command → Task → Prop
  | get {ns key : Bytes} {address : Address}
      (haddress : o.session.keys.deriveAddress ns key = .ok address) :
      Begins o (.get ns key) (.get o address)
  | set {ns key data : Bytes} {address : Address}
      (haddress : o.session.keys.deriveAddress ns key = .ok address) :
      Begins o (.set ns key data) (.set o ns key data address)
  | delete {ns key : Bytes} {address : Address}
      (haddress : o.session.keys.deriveAddress ns key = .ok address) :
      Begins o (.delete ns key) (.nonce o .delete (.delete ns key))
  | update {ns key : Bytes} {transform : Transform} {address : Address}
      (haddress : o.session.keys.deriveAddress ns key = .ok address) :
      Begins o (.update ns key transform) (.update o ns key transform address)
  | listKeys {ns : Bytes} {start : Address}
      (hstart : o.session.keys.namespacePrefix ns = .ok start) :
      Begins o (.listKeys ns) (.page o start none [])

theorem openFor_eq {s : Store} {session : Session} (h : s.session = some session) (op : Operation) :
    s.openFor op = .ok ⟨s.signer, s.config, session⟩ := by
  unfold openFor opened
  rw [h]
  rfl

theorem openFor_of_closed {s : Store} (h : s.session = none) (op : Operation) :
    s.openFor op = .error ⟨.closed, some (op, .acquireSession)⟩ := by
  unfold openFor opened
  rw [h]
  rfl

/-- Four of the commands begin with the address of their record. -/
theorem address_cases {s : Store} {session : Session} (h : s.session = some session)
    (op : Operation) (ns key : Bytes) (task : Opened → Address → Task) :
    let begun := andThen (s.openFor op) fun o =>
      andThen (o.address op ns key) fun address => .running (task o address)
    (∃ failure, begun =
      .ended [] (.error ⟨.addressDerivation failure, some (op, .deriveAddress)⟩)) ∨
    ∃ address, session.keys.deriveAddress ns key = .ok address ∧
      begun = .running (task ⟨s.signer, s.config, session⟩ address) := by
  intro begun
  have hopen := openFor_eq h op
  cases haddress : session.keys.deriveAddress ns key with
  | error failure =>
    refine .inl ⟨failure, ?_⟩
    simp only [begun, hopen, andThen, Opened.address, haddress, failAt, Progress.failed]
  | ok address =>
    refine .inr ⟨address, rfl, ?_⟩
    simp only [begun, hopen, andThen, Opened.address, haddress]

theorem start_of_closed {s : Store} (h : s.session = none) (command : Command) :
    command.start s =
      .ended [] (.error ⟨.closed, some (command.operation, .acquireSession)⟩) := by
  have hclosed := openFor_of_closed h
  cases command <;>
    simp only [Command.start, Command.operation, get, set, delete, update, listKeys, hclosed,
      andThen, Progress.failed]

/-- A command is refused by a store that is closed, or for a name that is too long, or it begins. -/
theorem start_cases (s : Store) (command : Command) :
    (s.session = none ∧ command.start s =
      .ended [] (.error ⟨.closed, some (command.operation, .acquireSession)⟩)) ∨
    (∃ failure, command.start s =
      .ended [] (.error ⟨.addressDerivation failure, some (command.operation, .deriveAddress)⟩)) ∨
    ∃ session task, s.session = some session ∧ Begins ⟨s.signer, s.config, session⟩ command task ∧
      command.start s = .running task := by
  cases hsession : s.session with
  | none => exact .inl ⟨rfl, start_of_closed hsession command⟩
  | some session =>
    refine .inr ?_
    cases command with
    | get ns key =>
      rcases address_cases hsession .get ns key .get with hfailed | ⟨address, haddress, hbegun⟩
      · exact .inl hfailed
      · exact .inr ⟨session, _, rfl, .get haddress, hbegun⟩
    | set ns key data =>
      rcases address_cases hsession .set ns key fun o => .set o ns key data with
        hfailed | ⟨address, haddress, hbegun⟩
      · exact .inl hfailed
      · exact .inr ⟨session, _, rfl, .set haddress, hbegun⟩
    | delete ns key =>
      rcases address_cases hsession .delete ns key fun o _ => .nonce o .delete (.delete ns key) with
        hfailed | ⟨address, haddress, hbegun⟩
      · exact .inl hfailed
      · exact .inr ⟨session, _, rfl, .delete haddress, hbegun⟩
    | update ns key transform =>
      rcases address_cases hsession .update ns key fun o => .update o ns key transform with
        hfailed | ⟨address, haddress, hbegun⟩
      · exact .inl hfailed
      · exact .inr ⟨session, _, rfl, .update haddress, hbegun⟩
    | listKeys ns =>
      have hopen := openFor_eq hsession .listKeys
      cases hstart : session.keys.namespacePrefix ns with
      | error failure =>
        refine .inl ⟨failure, ?_⟩
        simp only [Command.start, Command.operation, listKeys, hopen, andThen, Progress.failed,
          Opened.namespaceAddress, hstart, failAt]
      | ok start =>
        refine .inr ⟨session, _, rfl, .listKeys hstart, ?_⟩
        simp only [Command.start, listKeys, hopen, andThen, Opened.namespaceAddress, hstart]

/-! ## Going on -/

/-- An operation goes on with a task as `T` says, or has ended as `F` says. -/
def Goes (T : Task → Prop) (F : Except Error Output → Prop) : Progress → Prop
  | .running task => T task
  | .ended _ result => F result

section Goes

variable {T : Task → Prop} {F : Except Error Output → Prop}

theorem goes_andThen {α : Type} {result : Except Error α} {next : α → Progress}
    (herror : ∀ e, result = .error e → F (.error e))
    (hok : ∀ value, result = .ok value → Goes T F (next value)) :
    Goes T F (andThen result next) := by
  cases result with
  | ok value => exact hok value rfl
  | error e => exact herror e rfl

end Goes

theorem mapError_eq_error {α : Type} {result : Except Error α} {op : Operation} {step : Step}
    {e : Error} (h : result.mapError (·.during op step) = .error e) :
    ∃ cause, result = .error cause ∧ e = cause.during op step := by
  cases result with
  | ok value => cases h
  | error cause =>
    cases h
    exact ⟨cause, rfl, rfl⟩

theorem mapError_eq_ok {α : Type} {result : Except Error α} {op : Operation} {step : Step} {value : α}
    (h : result.mapError (·.during op step) = .ok value) : result = .ok value := by
  cases result with
  | ok found =>
    cases h
    rfl
  | error cause => cases h

/-! ## What answers come to -/

theorem dataOfReply_eq_ok {op : Operation} {value : Except Node.Error (Option Bytes)} {data : Bytes}
    (h : dataOfReply op value = .ok data) :
    ∃ raw record, value = .ok (some raw) ∧ Record.decode raw = .ok record ∧ record.data = data := by
  unfold dataOfReply at h
  split at h
  · cases h
  · cases h
  · next raw =>
    split at h
    · next record hrecord =>
      cases h
      exact ⟨raw, record, rfl, hrecord, rfl⟩
    · cases h

/-- Only of nothing is it said that nothing is found. -/
theorem eq_none_of_dataOfReply {op : Operation} {value : Except Node.Error (Option Bytes)} {e : Error}
    (h : dataOfReply op value = .error e) (hmissing : e.isNotFound = true) : value = .ok none := by
  unfold dataOfReply at h
  split at h
  · cases h
    cases hmissing
  · rfl
  · split at h
    · cases h
    · cases h
      cases hmissing

theorem existsInReply_eq_ok {op : Operation} {value : Except Node.Error (Option Bytes)}
    {isThere : Bool} (h : existsInReply op value = .ok isThere) :
    (isThere = true ∧ ∃ raw record, value = .ok (some raw) ∧ Record.decode raw = .ok record) ∨
      isThere = false ∧ value = .ok none := by
  unfold existsInReply at h
  cases hdata : dataOfReply op value with
  | ok data =>
    rw [hdata] at h
    cases h
    obtain ⟨raw, record, hvalue, hrecord, -⟩ := dataOfReply_eq_ok hdata
    exact .inl ⟨rfl, raw, record, hvalue, hrecord⟩
  | error e =>
    simp only [hdata] at h
    split at h
    · next hmissing =>
      cases h
      exact .inr ⟨rfl, eq_none_of_dataOfReply hdata hmissing⟩
    · cases h

theorem Opened.sign_eq_ok {o : Opened} {n : Nonce} {call : Call} {x : Extrinsic}
    (h : o.sign n call = .ok x) :
    o.signer.extrinsic o.session.chain n (o.session.encodeCall call) = .ok x := by
  unfold sign at h
  split at h
  · next hsigned =>
    cases h
    exact hsigned
  · cases h

/-! ## Reading where things are filed -/

/-- A result that is no failure to read something stored. -/
def Decoded (result : Except Error Output) : Prop := ∀ e, result = .error e → ¬e.Undecodable

/-- The transform does not claim to have met something unreadable. -/
def Transform.Sound (transform : Transform) : Prop :=
  ∀ old e, transform old = .error e → ¬e.Undecodable

/-- The task reads only where the ledger files what the task takes it for. -/
def Reads (r : Rules) : Task → Prop
  | .get _ address => ∃ ns key, r.keys.deriveAddress ns key = .ok address
  | .set o _ _ _ address =>
    o.session.keys = r.keys ∧ ∃ ns key, r.keys.deriveAddress ns key = .ok address
  | .update o _ _ transform address =>
    o.session.keys = r.keys ∧ transform.Sound ∧ ∃ ns key, r.keys.deriveAddress ns key = .ok address
  | .nonce o _ _ => o.session.keys = r.keys
  | .page _ start _ _ => ∃ ns, r.keys.namespacePrefix ns = .ok start
  | .submission .. | .inclusion .. | .release => True

theorem not_undecodable {cause : Cause} {op : Operation} {step : Step} (hstep : step ≠ .decode)
    (hcause : ∀ failure, cause ≠ .encoding failure) : ¬Error.Undecodable ⟨cause, some (op, step)⟩ := by
  rintro (h | ⟨failure, h⟩)
  · exact hstep (Option.some_inj.1 h)
  · exact hcause failure h

theorem decoded_ok (output : Output) : Decoded (.ok output) := by
  rintro e ⟨⟩

theorem decoded_error {e : Error} (h : ¬e.Undecodable) : Decoded (.error e) := by
  rintro _ ⟨⟩
  exact h

theorem decoded_of_cause {cause : Cause} {op : Operation} {step : Step} (hstep : step ≠ .decode)
    (hcause : ∀ failure, cause ≠ .encoding failure) : Decoded (.error ⟨cause, some (op, step)⟩) :=
  decoded_error (not_undecodable hstep hcause)

theorem Error.during_decodable {e : Error} {op : Operation} {step : Step} (h : ¬e.Undecodable)
    (hstep : step ≠ .decode) : ¬(e.during op step).Undecodable := by
  obtain ⟨cause, context⟩ := e
  cases context with
  | none => exact not_undecodable hstep fun failure heq => h (.inr ⟨failure, heq⟩)
  | some context => exact h

/-- A transform of the command is sound. -/
def Command.Sound : Command → Prop
  | .update _ _ transform => transform.Sound
  | _ => True

theorem Begins.reads {r : Rules} {o : Opened} {command : Command} {task : Task}
    (h : Begins o command task) (hkeys : o.session.keys = r.keys) (hsound : command.Sound) :
    Reads r task := by
  cases h with
  | get haddress =>
    rw [hkeys] at haddress
    exact ⟨_, _, haddress⟩
  | set haddress =>
    rw [hkeys] at haddress
    exact ⟨hkeys, _, _, haddress⟩
  | delete haddress => exact hkeys
  | update haddress =>
    rw [hkeys] at haddress
    exact ⟨hkeys, hsound, _, _, haddress⟩
  | listKeys hstart =>
    rw [hkeys] at hstart
    exact ⟨_, hstart⟩

section Reply

variable {r : Rules} {s next : State} {m : Contents} {address : Address}
  {value : Except Node.Error (Option Bytes)} {e : Error}

theorem reply_of_storage (h : s.serve r (.storage address none) = (.reply value, next)) :
    value = .error .closed ∨ value = .ok (s.best.get? address) := by
  unfold State.serve State.storage at h
  cases hclosed : s.closed with
  | true =>
    rw [hclosed] at h
    cases h
    exact .inl rfl
  | false =>
    rw [hclosed] at h
    cases h
    exact .inr rfl

/-- A record that is read is there and read, or it is not there. -/
theorem Holds.dataOfReply (hholds : Holds r s.best m) {ns key : Bytes} {op : Operation}
    (haddress : r.keys.deriveAddress ns key = .ok address)
    (hserve : s.serve r (.storage address none) = (.reply value, next))
    (hread : Store.dataOfReply op value = .error e) : ¬e.Undecodable := by
  obtain ⟨hns, hkey, rfl⟩ := StorageKeys.deriveAddress_eq_ok_iff.1 haddress
  rcases reply_of_storage hserve with rfl | rfl
  · cases hread
    exact not_undecodable nofun nofun
  · rw [hholds.dataOfReply_error hns hkey hread]
    exact not_undecodable nofun nofun

theorem Holds.nonceFor (hholds : Holds r s.best m) {o : Opened} {op : Operation}
    (hkeys : o.session.keys = r.keys)
    (hserve : s.serve r (nonceRequest o.session o.signer.account) = (.reply value, next))
    (hread : o.nonceFor op value = .error e) : ¬e.Undecodable := by
  unfold nonceRequest at hserve
  rw [hkeys] at hserve
  unfold Opened.nonceFor at hread
  rcases reply_of_storage hserve with rfl | rfl
  · cases hread
    exact not_undecodable nofun nofun
  · cases hnonce : nonceOfReply (.ok (s.best.get? (r.keys.accountAddress o.signer.account))) with
    | ok nonce =>
      rw [hnonce] at hread
      cases hread
    | error failure =>
      obtain rfl := hholds.nonceOfReply_error hnonce
      rw [hnonce] at hread
      simp only at hread
      split at hread
      · cases hread
      · cases hread
        exact not_undecodable nofun nofun

end Reply

theorem submission_refused {α : Type} {op : Operation} {value : Except Node.Error α} {e : Error}
    (h : (submissionOfReply value).mapError (·.during op .submit) = .error e) :
    ∃ failure, e = ⟨.submission failure, some (op, .submit)⟩ := by
  cases value with
  | ok answer => cases h
  | error failure =>
    cases h
    exact ⟨failure, rfl⟩

theorem outcome_refused {op : Operation} {kind : CallKind} {receipt : Receipt} {e : Error}
    (h : outcomeOfReceipt op kind receipt = .error e) :
    ∃ reason, e = ⟨.dispatch receipt.block reason, some (op, .awaitInclusion)⟩ := by
  unfold outcomeOfReceipt at h
  split at h
  · cases h
  · next reason _ =>
    split at h
    · cases h
    · cases h
      exact ⟨reason, rfl⟩

/-- However a submission ends, nothing stored is read for it. -/
theorem goes_submission {T : Task → Prop} (op : Operation) (x : Extrinsic)
    (value : Except Node.Error TxHash) :
    Goes T Decoded ((Task.submission op x).resume value) := by
  refine goes_andThen ?_ fun _ _ => decoded_ok _
  intro e hsubmit
  obtain ⟨failure, rfl⟩ := submission_refused hsubmit
  exact decoded_of_cause nofun nofun

theorem goes_inclusion {T : Task → Prop} (op : Operation) (kind : CallKind) (x : Extrinsic)
    (value : Except Node.Error Receipt) :
    Goes T Decoded ((Task.inclusion op kind x).resume value) := by
  refine goes_andThen ?_ fun receipt _ => goes_andThen ?_ fun _ _ => decoded_ok _
  · intro e hsubmit
    obtain ⟨failure, rfl⟩ := submission_refused hsubmit
    exact decoded_of_cause nofun nofun
  · intro e houtcome
    obtain ⟨reason, rfl⟩ := outcome_refused houtcome
    exact decoded_of_cause nofun nofun

theorem dataOfReply_of_existsInReply {op : Operation} {value : Except Node.Error (Option Bytes)}
    {e : Error} (h : existsInReply op value = .error e) : dataOfReply op value = .error e := by
  unfold existsInReply at h
  split at h
  · cases h
  · next failure hfailure =>
    split at h
    · cases h
    · cases h
      exact hfailure

theorem Opened.sign_error {o : Opened} {n : Nonce} {call : Call} {e : Error}
    (h : o.sign n call = .error e) : ∃ failure, e = ⟨.signing failure, none⟩ := by
  unfold sign at h
  split at h
  · cases h
  · next failure _ =>
    cases h
    exact ⟨failure, rfl⟩

/-- The addresses of a page are those of keys. -/
theorem Holds.keysOfPage_eq {r : Rules} {e : Entries} {m : Contents} (h : Holds r e m) {ns : Bytes}
    (hns : ns.length < UInt32.size) (count : Nat) (after : Option Address) :
    ∃ keys, keysOfPage (r.keys.namespaceAddress ns)
      (e.page (r.keys.namespaceAddress ns) count after) = (keys, none) := by
  have hpage : ∀ address ∈ e.page (r.keys.namespaceAddress ns) count after,
      ∃ key, key.length < UInt32.size ∧ address = r.keys.recordAddress ns key := by
    intro address hmem
    rw [Entries.page_eq] at hmem
    obtain ⟨key, hsome, rfl⟩ := (h.mem_under_iff hns).1 (List.mem_filter.1 (List.mem_of_mem_take hmem)).1
    exact ⟨key, h.key_short hsome, rfl⟩
  obtain ⟨keys, heq, hshort⟩ := exists_map_eq hpage
  rw [heq]
  exact ⟨keys, keysOfPage_map hshort⟩

/-- **What a store reads, it can read.** A task that reads where things are filed goes on with another
such task, or ends, but not because of something unreadable. -/
theorem Reads.resume {r : Rules} {s next : State} {m : Contents} {task : Task}
    {value : task.request.Reply} (h : Reads r task) (hholds : Holds r s.best m)
    (hserve : s.serve r task.request = (.reply value, next)) :
    Goes (Reads r) Decoded (task.resume value) := by
  cases task with
  | get o address =>
    obtain ⟨ns, key, haddress⟩ := h
    refine goes_andThen ?_ fun _ _ => decoded_ok _
    intro e hread
    exact decoded_error (hholds.dataOfReply haddress hserve hread)
  | set o ns key data address =>
    obtain ⟨hkeys, ns', key', haddress⟩ := h
    refine goes_andThen ?_ fun _ _ => hkeys
    intro e hread
    exact decoded_error (hholds.dataOfReply haddress hserve (dataOfReply_of_existsInReply hread))
  | update o ns key transform address =>
    obtain ⟨hkeys, hsound, ns', key', haddress⟩ := h
    refine goes_andThen ?_ fun old _ => goes_andThen ?_ fun _ _ => hkeys
    · intro e hread
      exact decoded_error (hholds.dataOfReply haddress hserve hread)
    · intro e htransform
      obtain ⟨cause, hcause, rfl⟩ := mapError_eq_error htransform
      exact decoded_error (Error.during_decodable (hsound old cause hcause) nofun)
  | nonce o op call =>
    refine goes_andThen ?_ fun n _ => goes_andThen ?_ fun x _ => ?_
    · intro e hread
      exact decoded_error (hholds.nonceFor h hserve hread)
    · intro e hsign
      obtain ⟨cause, hcause, rfl⟩ := mapError_eq_error hsign
      obtain ⟨failure, rfl⟩ := Opened.sign_error hcause
      exact decoded_of_cause nofun nofun
    · unfold Task.submit
      split
      · trivial
      · trivial
  | submission op x => exact goes_submission op x value
  | inclusion op kind x => exact goes_inclusion op kind x value
  | page o start after delivered =>
    obtain ⟨ns, hstart⟩ := h
    obtain ⟨hns, rfl⟩ := StorageKeys.namespacePrefix_eq_ok_iff.1 hstart
    cases hclosed : s.closed with
    | true =>
      have hrefused : s.serve r (.keys (r.keys.namespaceAddress ns) o.config.pageSize after none) =
          (.reply (.error .closed), s) := by
        unfold State.serve State.keys
        rw [hclosed]
        rfl
      cases hrefused.symm.trans hserve
      exact decoded_of_cause nofun nofun
    | false =>
      cases (serve_keys hclosed (r.keys.namespaceAddress ns) o.config.pageSize after).symm.trans hserve
      obtain ⟨keys, hkeys⟩ := hholds.keysOfPage_eq hns o.config.pageSize.toNat after
      simp only [Task.resume, hkeys]
      split
      · exact decoded_ok _
      · exact ⟨ns, hstart⟩
  | release =>
    cases hserve
    exact decoded_ok _

end Store

end MetaLedger
