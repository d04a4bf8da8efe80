import MetaLedger.Proofs.Store.Submitting

/-!
# What a reply can be at fault for

A task that goes on with a reply fails at the first thing that is wrong: with the reply itself, with
what is read in it, or with what the caller's function or the signer makes of that. `Fault` lists these
with the step at which each is noticed, and a task fails for them and for nothing else
(`Task.resume_fails_iff`). What is no fault is left out of the list: nothing stored where a record is
to be set, no account where one may be missing, and a record that is gone when it is to be removed.
-/

namespace MetaLedger.Store

open Progress (andThen)

/-! ## Failing -/

/-- The operation has ended with the error. -/
def Fails (p : Progress) (e : Error) : Prop := ∃ delivered, p = .ended delivered (.error e)

@[simp] theorem fails_running {task : Task} {e : Error} : ¬Fails (.running task) e := by
  rintro ⟨delivered, h⟩
  cases h

@[simp] theorem fails_ended_iff {delivered : List Bytes} {result : Except Error Output} {e : Error} :
    Fails (.ended delivered result) e ↔ result = .error e := by
  constructor
  · rintro ⟨_, h⟩
    cases h
    rfl
  · rintro rfl
    exact ⟨delivered, rfl⟩

@[simp] theorem fails_done {e : Error} : ¬Fails .done e := by
  rintro ⟨delivered, h⟩
  cases h

theorem fails_andThen_iff {α : Type} {result : Except Error α} {next : α → Progress} {e : Error} :
    Fails (andThen result next) e ↔
      result = .error e ∨ ∃ value, result = .ok value ∧ Fails (next value) e := by
  cases result with
  | ok value => simp [andThen]
  | error failure => simp [andThen, Progress.failed]

/-! ## Replies -/

/-- Why an answer is not taken for a record. -/
inductive Unread : Except Node.Error (Option Bytes) → Step → Cause → Prop
  | refused (e : Node.Error) : Unread (.error e) .queryState (.chainQuery e)
  | missing : Unread (.ok none) .queryState .notFound
  | garbled {raw : Bytes} {failure : Failure} (hraw : Record.decode raw = .error failure) :
      Unread (.ok (some raw)) .decode (.encoding failure)

/-- Why an answer is not taken for a nonce, by what it means that there is no account. -/
inductive Uncounted (policy : AbsentAccount) : Except Node.Error (Option Bytes) → Cause → Prop
  | refused (e : Node.Error) : Uncounted policy (.error e) (.chainQuery e)
  | missing (hpolicy : policy = .reject) : Uncounted policy (.ok none) .notFound
  | garbled {raw : Bytes} {failure : Failure} (hraw : AccountInfo.decodeNonce raw = .error failure) :
      Uncounted policy (.ok (some raw)) (.encoding failure)

section Replies

variable {op : Operation} {reply : Except Node.Error (Option Bytes)} {e : Error}

theorem dataOfReply_eq_error_iff :
    dataOfReply op reply = .error e ↔
      ∃ step cause, Unread reply step cause ∧ e = ⟨cause, some (op, step)⟩ := by
  constructor
  · intro h
    unfold dataOfReply at h
    split at h
    · cases h
      exact ⟨_, _, .refused _, rfl⟩
    · cases h
      exact ⟨_, _, .missing, rfl⟩
    · split at h
      · cases h
      · next failure hraw =>
        cases h
        exact ⟨_, _, .garbled hraw, rfl⟩
  · rintro ⟨step, cause, hunread, rfl⟩
    cases hunread with
    | refused e => rfl
    | missing => rfl
    | garbled hraw =>
      unfold dataOfReply
      simp only [hraw]
      rfl

/-- That nothing is stored is no fault where a record is to be set. -/
theorem existsInReply_eq_error_iff :
    existsInReply op reply = .error e ↔
      ∃ step cause, Unread reply step cause ∧ cause ≠ .notFound ∧ e = ⟨cause, some (op, step)⟩ := by
  constructor
  · intro h
    have hdata := dataOfReply_of_existsInReply h
    obtain ⟨step, cause, hunread, rfl⟩ := dataOfReply_eq_error_iff.1 hdata
    refine ⟨step, cause, hunread, ?_, rfl⟩
    rintro rfl
    unfold existsInReply at h
    simp [hdata, Error.isNotFound] at h
  · rintro ⟨step, cause, hunread, hpresent, rfl⟩
    have hdata : dataOfReply op reply = .error ⟨cause, some (op, step)⟩ :=
      dataOfReply_eq_error_iff.2 ⟨step, cause, hunread, rfl⟩
    unfold existsInReply
    simp [hdata, Error.isNotFound, hpresent]

theorem nonceFor_eq_error_iff {o : Opened} :
    o.nonceFor op reply = .error e ↔
      ∃ cause, Uncounted o.config.absentAccount reply cause ∧
        e = ⟨cause, some (op, .fetchNonce)⟩ := by
  constructor
  · intro h
    unfold Opened.nonceFor nonceOfReply at h
    cases reply with
    | error failure =>
      cases h
      exact ⟨_, .refused failure, rfl⟩
    | ok value =>
      cases value with
      | none =>
        simp only [Error.isNotFound, decide_true, Bool.true_and] at h
        split at h
        · cases h
        · next hpolicy =>
          cases h
          refine ⟨_, .missing ?_, rfl⟩
          cases hcase : o.config.absentAccount with
          | reject => rfl
          | assumeZero => exact absurd (decide_eq_true hcase) hpolicy
      | some raw =>
        cases hraw : AccountInfo.decodeNonce raw with
        | ok nonce =>
          simp only [hraw] at h
          cases h
        | error failure =>
          simp only [hraw, Error.isNotFound, reduceCtorEq, decide_false, Bool.false_and,
            Bool.false_eq_true, if_false] at h
          cases h
          exact ⟨_, .garbled hraw, rfl⟩
  · rintro ⟨cause, huncounted, rfl⟩
    cases huncounted with
    | refused failure => rfl
    | missing hpolicy => simp [Opened.nonceFor, nonceOfReply, hpolicy, Error.during]
    | garbled hraw => simp [Opened.nonceFor, nonceOfReply, hraw, Error.isNotFound, Error.during]

theorem sign_eq_error_iff {o : Opened} {n : Nonce} {call : Call} :
    o.sign n call = .error e ↔
      ∃ failure, o.signer.sign
          (signingPayload (o.session.encodeCall call) ⟨n, 0, .immortal⟩ o.session.chain) =
            .error failure ∧ e = ⟨.signing failure, none⟩ := by
  unfold Opened.sign Signer.extrinsic
  cases hsign : o.signer.sign
      (signingPayload (o.session.encodeCall call) ⟨n, 0, .immortal⟩ o.session.chain) with
  | ok signature =>
    simp only [hsign]
    exact iff_of_false nofun nofun
  | error failure =>
    simp only [hsign, Except.error.injEq, exists_eq_left']
    exact eq_comm

theorem submissionOfReply_fails_iff {α : Type} {reply : Except Node.Error α} :
    (submissionOfReply reply).mapError (·.during op .submit) = .error e ↔
      ∃ failure, reply = .error failure ∧ e = ⟨.submission failure, some (op, .submit)⟩ := by
  constructor
  · intro h
    obtain ⟨cause, hcause, rfl⟩ := mapError_eq_error h
    cases reply with
    | ok answer => cases hcause
    | error failure =>
      cases hcause
      exact ⟨failure, rfl, rfl⟩
  · rintro ⟨failure, rfl, rfl⟩
    rfl

theorem submissionOfReply_ok_iff {α : Type} {reply : Except Node.Error α} {answer : α} :
    (submissionOfReply reply).mapError (·.during op .submit) = .ok answer ↔ reply = .ok answer := by
  constructor
  · intro h
    have hanswer := mapError_eq_ok h
    cases reply with
    | ok found =>
      cases hanswer
      rfl
    | error failure => cases hanswer
  · rintro rfl
    rfl

/-- A refusal counts, unless the record that was to be removed is not there. -/
theorem outcomeOfReceipt_eq_error_iff {kind : CallKind} {receipt : Receipt} :
    outcomeOfReceipt op kind receipt = .error e ↔
      ∃ reason, receipt.outcome = .failed reason ∧
        ¬(reason = .metadataNotFound ∧ kind = .delete) ∧
        e = ⟨.dispatch receipt.block reason, some (op, .awaitInclusion)⟩ := by
  unfold outcomeOfReceipt
  cases houtcome : receipt.outcome with
  | success => simp
  | failed reason =>
    by_cases hgone : reason = .metadataNotFound ∧ kind = .delete
    · simp [hgone]
    · simp only [hgone, if_false, failAt, Except.error.injEq, Outcome.failed.injEq,
        exists_eq_left', not_false_iff, true_and]
      exact eq_comm

end Replies

/-- The keys of a page end at the first address that is not a key's. -/
theorem keysOfPage_stop_iff {start : Address} {addresses : List Address} {e : Error} :
    (keysOfPage start addresses).2 = some e ↔
      ∃ before address rest failure, addresses = before ++ address :: rest ∧
        (∀ a ∈ before, ∃ key, StorageKeys.recoverKey start a = .ok key) ∧
        StorageKeys.recoverKey start address = .error failure ∧
        e = ⟨.encoding failure, some (.listKeys, .decode)⟩ := by
  induction addresses with
  | nil => simp [keysOfPage]
  | cons first others ih =>
    cases hfirst : StorageKeys.recoverKey start first with
    | error failure =>
      simp only [keysOfPage, hfirst, Option.some.injEq]
      constructor
      · rintro rfl
        exact ⟨[], first, others, failure, rfl, List.forall_mem_nil _, hfirst, rfl⟩
      · rintro ⟨before, address, rest, failure', hlist, hgood, hbad, rfl⟩
        cases before with
        | nil =>
          cases hlist
          cases hfirst.symm.trans hbad
          rfl
        | cons a before =>
          cases hlist
          obtain ⟨key, hkey⟩ := hgood first List.mem_cons_self
          cases hfirst.symm.trans hkey
    | ok key =>
      simp only [keysOfPage, hfirst]
      rw [ih]
      constructor
      · rintro ⟨before, address, rest, failure, rfl, hgood, hbad, rfl⟩
        refine ⟨first :: before, address, rest, failure, rfl, ?_, hbad, rfl⟩
        intro a ha
        rcases List.mem_cons.1 ha with rfl | ha
        · exact ⟨key, hfirst⟩
        · exact hgood a ha
      · rintro ⟨before, address, rest, failure, hlist, hgood, hbad, rfl⟩
        cases before with
        | nil =>
          cases hlist
          cases hfirst.symm.trans hbad
        | cons a before =>
          cases hlist
          exact ⟨before, address, rest, failure, rfl,
            fun b hb => hgood b (List.mem_cons_of_mem _ hb), hbad, rfl⟩

/-! ## Tasks -/

/-- The operation that a task belongs to. -/
def Task.operation : Task → Operation
  | get .. => .get
  | set .. => .set
  | update .. => .update
  | nonce _ op _ | submission op _ | inclusion op _ _ => op
  | page .. => .listKeys
  | release => .close

/-- The function gives up if it fails, and claims nothing else. -/
def Transform.Aborts (transform : Transform) : Prop :=
  ∀ old e, transform old = .error e → ∃ text, e = ⟨.updateAborted text, none⟩

/-- The caller's function, if the task is given one, fails only to give up. -/
def Task.Aborts : Task → Prop
  | update _ _ _ transform _ => transform.Aborts
  | _ => True

/-- What can be wrong when a task goes on with a reply: the step at which it is noticed, and the
cause. -/
inductive Fault : (task : Task) → task.request.Reply → Step → Cause → Prop
  | get {o : Opened} {address : Address} {reply : Except Node.Error (Option Bytes)} {step : Step}
      {cause : Cause} (hunread : Unread reply step cause) : Fault (.get o address) reply step cause
  | set {o : Opened} {ns key data : Bytes} {address : Address}
      {reply : Except Node.Error (Option Bytes)} {step : Step} {cause : Cause}
      (hunread : Unread reply step cause) (hpresent : cause ≠ .notFound) :
      Fault (.set o ns key data address) reply step cause
  | update {o : Opened} {ns key : Bytes} {transform : Transform} {address : Address}
      {reply : Except Node.Error (Option Bytes)} {step : Step} {cause : Cause}
      (hunread : Unread reply step cause) :
      Fault (.update o ns key transform address) reply step cause
  | transform {o : Opened} {ns key raw : Bytes} {transform : Transform} {address : Address}
      {record : Record} {text : String} (hrecord : Record.decode raw = .ok record)
      (habort : transform record.data = .error ⟨.updateAborted text, none⟩) :
      Fault (.update o ns key transform address) (.ok (some raw)) .transform (.updateAborted text)
  | nonce {o : Opened} {op : Operation} {call : Call} {reply : Except Node.Error (Option Bytes)}
      {cause : Cause} (huncounted : Uncounted o.config.absentAccount reply cause) :
      Fault (.nonce o op call) reply .fetchNonce cause
  | sign {o : Opened} {op : Operation} {call : Call} {reply : Except Node.Error (Option Bytes)}
      {n : Nonce} {failure : Failure} (hnonce : o.nonceFor op reply = .ok n)
      (hsign : o.signer.sign
        (signingPayload (o.session.encodeCall call) ⟨n, 0, .immortal⟩ o.session.chain) =
          .error failure) :
      Fault (.nonce o op call) reply .sign (.signing failure)
  | submission {op : Operation} {x : Extrinsic} (e : Node.Error) :
      Fault (.submission op x) (.error e) .submit (.submission e)
  | inclusion {op : Operation} {kind : CallKind} {x : Extrinsic} (e : Node.Error) :
      Fault (.inclusion op kind x) (.error e) .submit (.submission e)
  | dispatch {op : Operation} {kind : CallKind} {x : Extrinsic} {receipt : Receipt}
      {reason : DispatchError} (hfailed : receipt.outcome = .failed reason)
      (hcounts : ¬(reason = .metadataNotFound ∧ kind = .delete)) :
      Fault (.inclusion op kind x) (.ok receipt) .awaitInclusion (.dispatch receipt.block reason)
  | scan {o : Opened} {start : Address} {after : Option Address} {delivered : List Bytes}
      (e : Node.Error) : Fault (.page o start after delivered) (.error e) .scanKeys (.chainQuery e)
  | key {o : Opened} {start address : Address} {after : Option Address} {delivered : List Bytes}
      {before rest : List Address} {failure : Failure}
      (hgood : ∀ a ∈ before, ∃ key, StorageKeys.recoverKey start a = .ok key)
      (hbad : StorageKeys.recoverKey start address = .error failure) :
      Fault (.page o start after delivered) (.ok (before ++ address :: rest)) .decode
        (.encoding failure)
  | release (e : Node.Error) : Fault .release (.error e) .release (.chainQuery e)

section Resume

variable {o : Opened} {op : Operation} {e : Error}

theorem update_fails {ns key : Bytes} {transform : Transform} (haborts : transform.Aborts)
    {address : Address} {reply : Except Node.Error (Option Bytes)}
    (h : Fails ((Task.update o ns key transform address).resume reply) e) :
    ∃ step cause, Fault (.update o ns key transform address) reply step cause ∧
      e = ⟨cause, some (.update, step)⟩ := by
  rcases fails_andThen_iff.1 h with hdata | ⟨old, hold, h⟩
  · obtain ⟨step, cause, hunread, rfl⟩ := dataOfReply_eq_error_iff.1 hdata
    exact ⟨step, cause, .update hunread, rfl⟩
  · rcases fails_andThen_iff.1 h with htransform | ⟨data, -, h⟩
    · obtain ⟨failure, hfailure, rfl⟩ := mapError_eq_error htransform
      obtain ⟨text, rfl⟩ := haborts old failure hfailure
      obtain ⟨raw, record, rfl, hrecord, rfl⟩ := dataOfReply_eq_ok hold
      exact ⟨.transform, .updateAborted text, .transform hrecord hfailure, rfl⟩
    · exact absurd h fails_running

theorem nonce_fails {call : Call} {reply : Except Node.Error (Option Bytes)}
    (h : Fails ((Task.nonce o op call).resume reply) e) :
    ∃ step cause, Fault (.nonce o op call) reply step cause ∧ e = ⟨cause, some (op, step)⟩ := by
  rcases fails_andThen_iff.1 h with hnonce | ⟨n, hn, h⟩
  · obtain ⟨cause, huncounted, rfl⟩ := nonceFor_eq_error_iff.1 hnonce
    exact ⟨.fetchNonce, cause, .nonce huncounted, rfl⟩
  · rcases fails_andThen_iff.1 h with hsign | ⟨x, -, h⟩
    · obtain ⟨failure, hfailure, rfl⟩ := mapError_eq_error hsign
      obtain ⟨refusal, hrefusal, rfl⟩ := sign_eq_error_iff.1 hfailure
      exact ⟨.sign, .signing refusal, .sign hn hrefusal, rfl⟩
    · exact absurd h fails_running

theorem inclusion_fails {kind : CallKind} {x : Extrinsic} {reply : Except Node.Error Receipt}
    (h : Fails ((Task.inclusion op kind x).resume reply) e) :
    ∃ step cause, Fault (.inclusion op kind x) reply step cause ∧ e = ⟨cause, some (op, step)⟩ := by
  rcases fails_andThen_iff.1 h with hsubmit | ⟨receipt, hreceipt, h⟩
  · obtain ⟨failure, rfl, rfl⟩ := submissionOfReply_fails_iff.1 hsubmit
    exact ⟨.submit, .submission failure, .inclusion failure, rfl⟩
  · obtain rfl := submissionOfReply_ok_iff.1 hreceipt
    rcases fails_andThen_iff.1 h with houtcome | ⟨_, -, h⟩
    · obtain ⟨reason, hfailed, hcounts, rfl⟩ := outcomeOfReceipt_eq_error_iff.1 houtcome
      exact ⟨.awaitInclusion, .dispatch receipt.block reason, .dispatch hfailed hcounts, rfl⟩
    · exact absurd h fails_done

/-- A page fails if it is refused or if one of its addresses is not a key's. -/
theorem page_fails_iff {start : Address} {after : Option Address} {delivered : List Bytes}
    {reply : Except Node.Error (List Address)} :
    Fails ((Task.page o start after delivered).resume reply) e ↔
      (∃ failure, reply = .error failure ∧ e = ⟨.chainQuery failure, some (.listKeys, .scanKeys)⟩) ∨
      ∃ addresses, reply = .ok addresses ∧ (keysOfPage start addresses).2 = some e := by
  cases reply with
  | error failure => simp [Task.resume, failAt, eq_comm]
  | ok addresses =>
    simp only [Task.resume, reduceCtorEq, false_and, exists_false, false_or, Except.ok.injEq,
      exists_eq_left']
    cases hstop : (keysOfPage start addresses).2 with
    | some failure => simp
    | none =>
      simp only [reduceCtorEq, iff_false]
      split
      · simp
      · exact fails_running

theorem page_fails {start : Address} {after : Option Address} {delivered : List Bytes}
    {reply : Except Node.Error (List Address)}
    (h : Fails ((Task.page o start after delivered).resume reply) e) :
    ∃ step cause, Fault (.page o start after delivered) reply step cause ∧
      e = ⟨cause, some (.listKeys, step)⟩ := by
  rcases page_fails_iff.1 h with ⟨failure, rfl, rfl⟩ | ⟨addresses, rfl, hstop⟩
  · exact ⟨.scanKeys, .chainQuery failure, .scan failure, rfl⟩
  · obtain ⟨before, address, rest, failure, rfl, hgood, hbad, rfl⟩ := keysOfPage_stop_iff.1 hstop
    exact ⟨.decode, .encoding failure, .key hgood hbad, rfl⟩

end Resume

/-- A task at whose reply something is wrong fails, and says what and where. -/
theorem Fault.fails {task : Task} {reply : task.request.Reply} {step : Step} {cause : Cause}
    (h : Fault task reply step cause) :
    Fails (task.resume reply) ⟨cause, some (task.operation, step)⟩ := by
  cases h with
  | get hunread =>
    exact fails_andThen_iff.2 (.inl (dataOfReply_eq_error_iff.2 ⟨_, _, hunread, rfl⟩))
  | set hunread hpresent =>
    exact fails_andThen_iff.2 (.inl (existsInReply_eq_error_iff.2 ⟨_, _, hunread, hpresent, rfl⟩))
  | update hunread =>
    exact fails_andThen_iff.2 (.inl (dataOfReply_eq_error_iff.2 ⟨_, _, hunread, rfl⟩))
  | @transform o ns key raw transform address record text hrecord habort =>
    have hdata : dataOfReply .update (.ok (some raw)) = .ok record.data := by
      unfold dataOfReply
      simp only [hrecord]
    refine fails_andThen_iff.2 (.inr ⟨_, hdata, fails_andThen_iff.2 (.inl ?_)⟩)
    rw [habort]
    rfl
  | nonce huncounted =>
    exact fails_andThen_iff.2 (.inl (nonceFor_eq_error_iff.2 ⟨_, huncounted, rfl⟩))
  | sign hnonce hsign =>
    refine fails_andThen_iff.2 (.inr ⟨_, hnonce, fails_andThen_iff.2 (.inl ?_)⟩)
    rw [sign_eq_error_iff.2 ⟨_, hsign, rfl⟩]
    rfl
  | submission failure | inclusion failure => exact ⟨[], rfl⟩
  | dispatch hfailed hcounts =>
    -- The reply is a receipt, so that what becomes of it is all that is left.
    refine fails_andThen_iff.2 (.inl ?_)
    exact outcomeOfReceipt_eq_error_iff.2 ⟨_, hfailed, hcounts, rfl⟩
  | scan failure => exact page_fails_iff.2 (.inl ⟨failure, rfl, rfl⟩)
  | key hgood hbad =>
    refine page_fails_iff.2 (.inr ⟨_, rfl, ?_⟩)
    exact keysOfPage_stop_iff.2 ⟨_, _, _, _, rfl, hgood, hbad, rfl⟩
  | release failure => exact ⟨[], rfl⟩

/-- **One reply.** A task fails with what is wrong at its reply, under its operation and the step at
which it is noticed, and with nothing else. -/
theorem Task.resume_fails_iff {task : Task} (haborts : task.Aborts) {reply : task.request.Reply}
    {e : Error} :
    Fails (task.resume reply) e ↔
      ∃ step cause, Fault task reply step cause ∧ e = ⟨cause, some (task.operation, step)⟩ := by
  constructor
  · intro h
    cases task with
    | get o address =>
      rcases fails_andThen_iff.1 h with hdata | ⟨data, -, h⟩
      · obtain ⟨step, cause, hunread, rfl⟩ := dataOfReply_eq_error_iff.1 hdata
        exact ⟨step, cause, .get hunread, rfl⟩
      · cases fails_ended_iff.1 h
    | set o ns key data address =>
      rcases fails_andThen_iff.1 h with hexists | ⟨isThere, -, h⟩
      · obtain ⟨step, cause, hunread, hpresent, rfl⟩ := existsInReply_eq_error_iff.1 hexists
        exact ⟨step, cause, .set hunread hpresent, rfl⟩
      · exact absurd h fails_running
    | update o ns key transform address => exact update_fails haborts h
    | nonce o op call => exact nonce_fails h
    | submission op x =>
      rcases fails_andThen_iff.1 h with hsubmit | ⟨hash, -, h⟩
      · obtain ⟨failure, rfl, rfl⟩ := submissionOfReply_fails_iff.1 hsubmit
        exact ⟨.submit, .submission failure, .submission failure, rfl⟩
      · exact absurd h fails_done
    | inclusion op kind x => exact inclusion_fails h
    | page o start after delivered => exact page_fails h
    | release =>
      cases reply with
      | ok answer => exact absurd h fails_done
      | error failure =>
        cases fails_ended_iff.1 h
        exact ⟨.release, .chainQuery failure, .release failure, rfl⟩
  · rintro ⟨step, cause, hfault, rfl⟩
    exact hfault.fails

end MetaLedger.Store
