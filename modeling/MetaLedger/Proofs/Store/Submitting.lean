import MetaLedger.Proofs.Store.Steps

/-!
# What a store hands in

An operation talks with a node: it asks, the node answers whatever it likes, and it asks again
(`Converses`). Of what is said before, a store keeps only what it takes for the record and the nonce
(`Stage`). It hands in one transaction at most, which is the last that it says, and that one is drawn up
from the answers as the command wants it (`Drafts`): there is no answer that makes it take a failure for
absence, use another's nonce, or hand in again (`converses_obeys`).
-/

namespace MetaLedger.Store

open Progress (andThen)

/-! ## Conversations -/

/-- A request, with what the node answered. -/
structure Exchange where
  request : Node.Request
  reply : request.Reply

/-- The transaction that is handed in, if one is. -/
def Exchange.submitted? (exchange : Exchange) : Option Extrinsic :=
  match exchange.request with
  | .submit x | .submitAndWatch x => some x
  | _ => none

/-- The transactions that are handed in, in their order. -/
def submitted (talk : List Exchange) : List Extrinsic := talk.filterMap Exchange.submitted?

theorem submitted_append (talk more : List Exchange) :
    submitted (talk ++ more) = submitted talk ++ submitted more := List.filterMap_append

/-- Through the exchanges, an operation gets from one place to another. The node answers as it likes. -/
inductive Converses : Progress → List Exchange → Progress → Prop
  | rest (p : Progress) : Converses p [] p
  | exchange {task : Task} {talk : List Exchange} {p : Progress} (reply : task.request.Reply)
      (hrest : Converses (task.resume reply) talk p) :
      Converses (.running task) (⟨task.request, reply⟩ :: talk) p

/-! ## What is to be handed in -/

/-- The command is one that writes. -/
def Command.Writes : Command → Prop
  | .set .. | .delete .. | .update .. => True
  | .get .. | .listKeys _ => False

/-- The call that a command comes to, by what the node says of the record. -/
inductive Orders (o : Opened) : Command → List Exchange → Call → Prop
  | insert {ns key data : Bytes} {address : Address}
      (haddress : o.session.keys.deriveAddress ns key = .ok address) :
      Orders o (.set ns key data) [⟨.storage address none, .ok none⟩] (.set ns key data)
  | replace {ns key data raw : Bytes} {address : Address} {record : Record}
      (haddress : o.session.keys.deriveAddress ns key = .ok address)
      (hrecord : Record.decode raw = .ok record) :
      Orders o (.set ns key data) [⟨.storage address none, .ok (some raw)⟩] (.update ns key data)
  | delete {ns key : Bytes} {address : Address}
      (haddress : o.session.keys.deriveAddress ns key = .ok address) :
      Orders o (.delete ns key) [] (.delete ns key)
  | update {ns key data raw : Bytes} {transform : Transform} {address : Address} {record : Record}
      (haddress : o.session.keys.deriveAddress ns key = .ok address)
      (hrecord : Record.decode raw = .ok record) (hdata : transform record.data = .ok data) :
      Orders o (.update ns key transform) [⟨.storage address none, .ok (some raw)⟩]
        (.update ns key data)

/-- The nonce that an answer comes to. -/
inductive NonceIn (o : Opened) : Except Node.Error (Option Bytes) → Nonce → Prop
  | stored {raw : Bytes} {n : Nonce} (hnonce : AccountInfo.decodeNonce raw = .ok n) :
      NonceIn o (.ok (some raw)) n
  | absent (hpolicy : o.config.absentAccount = .assumeZero) : NonceIn o (.ok none) 0

/-- The transaction that a command comes to after the exchanges: of the nonce that was fetched last,
without a tip, and signed for the chain of the session. -/
inductive Drafts (o : Opened) (command : Command) : List Exchange → Call → Extrinsic → Prop
  | signed {talk : List Exchange} {call : Call} {answer : Except Node.Error (Option Bytes)}
      {n : Nonce} {signature : Ed25519.Signature} (horders : Orders o command talk call)
      (hnonce : NonceIn o answer n)
      (hsigned : o.signer.sign
        (signingPayload (o.session.encodeCall call) ⟨n, 0, .immortal⟩ o.session.chain) =
          .ok signature) :
      Drafts o command (talk ++ [⟨nonceRequest o.session o.signer.account, answer⟩]) call
        ⟨o.signer.account, signature, ⟨n, 0, .immortal⟩, o.session.encodeCall call⟩

/-- A transaction is handed in, as the configuration has it. -/
inductive HandsIn (o : Opened) (x : Extrinsic) : Exchange → Prop
  | pool (hmode : o.config.submission = .pool) (reply : Except Node.Error TxHash) :
      HandsIn o x ⟨.submit x, reply⟩
  | inBlock (hmode : o.config.submission = .inBlock) (reply : Except Node.Error Receipt) :
      HandsIn o x ⟨.submitAndWatch x, reply⟩

/-- The failure is one of handing in, or of what became of it. -/
def Error.OfSubmission (e : Error) : Prop :=
  e.step? = some .submit ∨ e.step? = some .awaitInclusion

section Quiet

variable {o : Opened} {command : Command} {talk : List Exchange} {call : Call} {x : Extrinsic}

theorem Orders.writes (h : Orders o command talk call) : command.Writes := by
  cases h <;> trivial

theorem Orders.submitted_eq (h : Orders o command talk call) : submitted talk = [] := by
  cases h <;> rfl

theorem Drafts.writes (h : Drafts o command talk call x) : command.Writes := by
  cases h with
  | signed horders => exact horders.writes

theorem Drafts.submitted_eq (h : Drafts o command talk call x) : submitted talk = [] := by
  cases h with
  | signed horders => rw [submitted_append, horders.submitted_eq]; rfl

theorem HandsIn.submitted_eq {last : Exchange} (h : HandsIn o x last) : submitted [last] = [x] := by
  cases h <;> rfl

end Quiet

/-! ## Along a conversation -/

/-- Where an operation is that waits for an answer, by what has been said before. -/
inductive Stage (o : Opened) (command : Command) : List Exchange → Task → Prop
  | begun {task : Task} (hbegins : Begins o command task) : Stage o command [] task
  | nonce {talk : List Exchange} {op : Operation} {call : Call}
      (horders : Orders o command talk call) : Stage o command talk (.nonce o op call)
  | submission {talk : List Exchange} {op : Operation} {call : Call} {x : Extrinsic}
      (hmode : o.config.submission = .pool) (hdrafts : Drafts o command talk call x) :
      Stage o command talk (.submission op x)
  | inclusion {talk : List Exchange} {op : Operation} {call : Call} {x : Extrinsic}
      (hmode : o.config.submission = .inBlock) (hdrafts : Drafts o command talk call x) :
      Stage o command talk (.inclusion op call.kind x)
  | page {talk : List Exchange} {start : Address} {after : Option Address} {keys : List Bytes}
      (hreads : ¬command.Writes) (hquiet : submitted talk = []) :
      Stage o command talk (.page o start after keys)

/-- What has been said when an operation ends: nothing was handed in, and then a write has failed, or
one transaction was, in the end. -/
inductive Finish (o : Opened) (command : Command) (talk : List Exchange)
    (result : Except Error Output) : Prop
  | unsent (hquiet : submitted talk = []) (hfailed : command.Writes → ∃ e, result = .error e)
  | sent {before : List Exchange} {last : Exchange} {call : Call} {x : Extrinsic}
      (htalk : talk = before ++ [last]) (hdrafts : Drafts o command before call x)
      (hlast : HandsIn o x last) (herror : ∀ e, result = .error e → e.OfSubmission)

section Along

variable {o : Opened} {command : Command} {talk : List Exchange}

theorem Finish.failed (hquiet : submitted talk = []) (e : Error) :
    Finish o command talk (.error e) := .unsent hquiet fun _ => ⟨e, rfl⟩

theorem Finish.read (hquiet : submitted talk = []) (hreads : ¬command.Writes)
    (result : Except Error Output) : Finish o command talk result :=
  .unsent hquiet fun hwrites => absurd hwrites hreads

theorem nonceFor_eq_ok {op : Operation} {answer : Except Node.Error (Option Bytes)} {n : Nonce}
    (h : o.nonceFor op answer = .ok n) : NonceIn o answer n := by
  unfold Opened.nonceFor nonceOfReply at h
  cases answer with
  | error e => cases h
  | ok value =>
    cases value with
    | none =>
      simp only [Error.isNotFound, decide_true, Bool.true_and] at h
      split at h
      · next hpolicy =>
        cases h
        exact .absent (of_decide_eq_true hpolicy)
      · cases h
    | some raw =>
      cases hraw : AccountInfo.decodeNonce raw with
      | ok nonce =>
        simp only [hraw] at h
        cases h
        exact .stored hraw
      | error failure =>
        simp only [hraw, Error.isNotFound, reduceCtorEq, decide_false, Bool.false_and,
          Bool.false_eq_true, if_false] at h

/-- With the nonce, a call is signed and handed in next. -/
theorem Orders.resume {call : Call} (h : Orders o command talk call) (op : Operation)
    (answer : Except Node.Error (Option Bytes)) :
    let said := talk ++ [⟨nonceRequest o.session o.signer.account, answer⟩]
    Goes (Stage o command said) (Finish o command said) ((Task.nonce o op call).resume answer) := by
  intro said
  have hquiet : submitted said = [] := by
    rw [submitted_append, h.submitted_eq]
    rfl
  refine goes_andThen (fun e _ => .failed hquiet e) fun n hn => ?_
  refine goes_andThen (fun e _ => .failed hquiet e) fun x hx => ?_
  obtain ⟨signature, hsigned, rfl⟩ :=
    Signer.extrinsic_eq_ok (Opened.sign_eq_ok (mapError_eq_ok hx))
  have hdrafts := Drafts.signed h (nonceFor_eq_ok hn) hsigned
  unfold Task.submit
  cases hmode : o.config.submission with
  | pool => exact Stage.submission hmode hdrafts
  | inBlock => exact Stage.inclusion hmode hdrafts

/-- After a transaction is handed in, nothing is left to say. -/
theorem Drafts.finish {call : Call} {x : Extrinsic} {last : Exchange}
    (h : Drafts o command talk call x) (hlast : HandsIn o x last) {result : Except Error Output}
    (herror : ∀ e, result = .error e → e.OfSubmission) :
    Finish o command (talk ++ [last]) result := .sent rfl h hlast herror

theorem Drafts.resume_submission {call : Call} {x : Extrinsic} (h : Drafts o command talk call x)
    (hmode : o.config.submission = .pool) (op : Operation) (reply : Except Node.Error TxHash) :
    let said := talk ++ [⟨.submit x, reply⟩]
    Goes (Stage o command said) (Finish o command said) ((Task.submission op x).resume reply) := by
  intro said
  refine goes_andThen (fun e he => ?_) fun _ _ => ?_
  · obtain ⟨failure, rfl⟩ := submission_refused he
    refine h.finish (.pool hmode reply) ?_
    rintro _ ⟨⟩
    exact .inl rfl
  · refine h.finish (.pool hmode reply) ?_
    rintro _ ⟨⟩

theorem Drafts.resume_inclusion {call : Call} {x : Extrinsic} (h : Drafts o command talk call x)
    (hmode : o.config.submission = .inBlock) (op : Operation) (kind : CallKind)
    (reply : Except Node.Error Receipt) :
    let said := talk ++ [⟨.submitAndWatch x, reply⟩]
    Goes (Stage o command said) (Finish o command said)
      ((Task.inclusion op kind x).resume reply) := by
  intro said
  refine goes_andThen (fun e he => ?_) fun receipt _ => goes_andThen (fun e he => ?_) fun _ _ => ?_
  · obtain ⟨failure, rfl⟩ := submission_refused he
    refine h.finish (.inBlock hmode reply) ?_
    rintro _ ⟨⟩
    exact .inl rfl
  · obtain ⟨reason, rfl⟩ := outcome_refused he
    refine h.finish (.inBlock hmode reply) ?_
    rintro _ ⟨⟩
    exact .inr rfl
  · refine h.finish (.inBlock hmode reply) ?_
    rintro _ ⟨⟩

/-- The pages of a listing are asked for, and nothing else. -/
theorem goes_page {start : Address} {after : Option Address} {keys : List Bytes}
    (hreads : ¬command.Writes) (hquiet : submitted talk = [])
    (reply : Except Node.Error (List Address)) :
    let said := talk ++ [⟨(Task.page o start after keys).request, reply⟩]
    Goes (Stage o command said) (Finish o command said)
      ((Task.page o start after keys).resume reply) := by
  intro said
  have hquiet : submitted said = [] := by
    rw [submitted_append, hquiet]
    rfl
  cases reply with
  | error e => exact Finish.read hquiet hreads _
  | ok addresses =>
    simp only [Task.resume]
    split
    · exact Finish.read hquiet hreads _
    · split
      · exact Finish.read hquiet hreads _
      · exact Stage.page hreads hquiet

/-- **One answer.** Whatever the answer is, the operation goes on as it should, or ends as it should. -/
theorem Stage.resume {task : Task} (h : Stage o command talk task) (reply : task.request.Reply) :
    let said := talk ++ [⟨task.request, reply⟩]
    Goes (Stage o command said) (Finish o command said) (task.resume reply) := by
  intro said
  cases h with
  | nonce horders => exact horders.resume _ reply
  | submission hmode hdrafts => exact hdrafts.resume_submission hmode _ reply
  | inclusion hmode hdrafts => exact hdrafts.resume_inclusion hmode _ _ reply
  | page hreads hquiet => exact goes_page hreads hquiet reply
  | begun hbegins =>
    cases hbegins with
    | get haddress =>
      refine goes_andThen (fun e _ => .failed rfl e) fun data _ => ?_
      exact Finish.read rfl id _
    | set haddress =>
      refine goes_andThen (fun e _ => .failed rfl e) fun isThere hthere => ?_
      rcases existsInReply_eq_ok hthere with ⟨rfl, raw, record, rfl, hrecord⟩ | ⟨rfl, rfl⟩
      · exact Stage.nonce (.replace haddress hrecord)
      · exact Stage.nonce (.insert haddress)
    | delete haddress => exact (Orders.delete haddress).resume _ reply
    | update haddress =>
      refine goes_andThen (fun e _ => .failed rfl e) fun old hold => ?_
      refine goes_andThen (fun e _ => .failed rfl e) fun data hdata => ?_
      obtain ⟨raw, record, rfl, hrecord, rfl⟩ := dataOfReply_eq_ok hold
      exact Stage.nonce (.update haddress hrecord (mapError_eq_ok hdata))
    | listKeys hstart => exact goes_page id rfl reply

/-- A whole conversation. -/
theorem Converses.goes {p q : Progress} {more : List Exchange} (h : Converses p more q)
    (hp : Goes (Stage o command talk) (Finish o command talk) p) :
    Goes (Stage o command (talk ++ more)) (Finish o command (talk ++ more)) q := by
  induction h generalizing talk with
  | rest p =>
    rw [List.append_nil]
    exact hp
  | @exchange task rest p reply _ ih =>
    have hstep := ih (Stage.resume hp reply)
    rw [List.append_assoc] at hstep
    exact hstep

end Along

/-! ## Every conversation -/

/-- What has been handed in of a command, wherever its operation stands. -/
structure Obeys (s : Store) (command : Command) (talk : List Exchange) (p : Progress) : Prop where
  /-- Who reads hands in nothing. -/
  reading : ¬command.Writes → submitted talk = []
  /-- Nothing is handed in, or one transaction is, in the end. -/
  once : submitted talk = [] ∨
    ∃ session before last call x delivered result, s.session = some session ∧
      talk = before ++ [last] ∧ submitted before = [] ∧
      Drafts ⟨s.signer, s.config, session⟩ command before call x ∧
      HandsIn ⟨s.signer, s.config, session⟩ x last ∧ p = .ended delivered result
  /-- Who fails before handing in has handed in nothing. -/
  failed : ∀ delivered e, p = .ended delivered (.error e) → ¬e.OfSubmission → submitted talk = []
  /-- A write that ends well has handed something in. -/
  written : command.Writes → ∀ delivered output, p = .ended delivered (.ok output) →
    submitted talk ≠ []

theorem Stage.submitted_eq {o : Opened} {command : Command} {talk : List Exchange} {task : Task}
    (h : Stage o command talk task) : submitted talk = [] := by
  cases h with
  | begun => rfl
  | nonce horders => exact horders.submitted_eq
  | submission _ hdrafts | inclusion _ hdrafts => exact hdrafts.submitted_eq
  | page _ hquiet => exact hquiet

section Obeys

variable {s : Store} {command : Command} {talk : List Exchange} {p : Progress}

theorem Converses.of_ended {delivered : List Bytes} {result : Except Error Output}
    (h : Converses (.ended delivered result) talk p) : talk = [] ∧ p = .ended delivered result := by
  cases h
  exact ⟨rfl, rfl⟩

theorem obeys_of_refused {delivered : List Bytes} {e : Error}
    (h : Converses (.ended delivered (.error e)) talk p) : Obeys s command talk p := by
  obtain ⟨rfl, rfl⟩ := h.of_ended
  refine ⟨fun _ => rfl, .inl rfl, fun _ _ _ _ => rfl, fun _ _ _ hended => ?_⟩
  cases hended

theorem obeys_of_goes {session : Session} (hsession : s.session = some session)
    (h : Goes (Stage ⟨s.signer, s.config, session⟩ command talk)
      (Finish ⟨s.signer, s.config, session⟩ command talk) p) : Obeys s command talk p := by
  cases p with
  | running task =>
    have hquiet := Stage.submitted_eq h
    refine ⟨fun _ => hquiet, .inl hquiet, fun _ _ _ _ => hquiet, fun _ _ _ hended => ?_⟩
    cases hended
  | ended delivered result =>
    cases h with
    | unsent hquiet hfailed =>
      refine ⟨fun _ => hquiet, .inl hquiet, fun _ _ _ _ => hquiet, fun hwrites _ _ hended => ?_⟩
      obtain ⟨e, rfl⟩ := hfailed hwrites
      cases hended
    | @sent before last call x htalk hdrafts hlast herror =>
      have hsent : submitted talk = [x] := by
        rw [htalk, submitted_append, hdrafts.submitted_eq, hlast.submitted_eq]
        rfl
      refine ⟨fun hreads => absurd hdrafts.writes hreads, .inr ?_, ?_, fun _ _ _ _ => ?_⟩
      · exact ⟨session, before, last, call, x, delivered, result, hsession, htalk,
          hdrafts.submitted_eq, hdrafts, hlast, rfl⟩
      · intro _ e hended hother
        cases hended
        exact absurd (herror e rfl) hother
      · rw [hsent]
        exact List.cons_ne_nil x []

end Obeys

/-- **One submission at most, and of what was asked for.** Whatever a node answers, a command hands in
what follows from it and from the answers, once; and closing a store hands in nothing. -/
theorem converses_obeys (s : Store) :
    (∀ command talk p, Converses (command.start s) talk p → Obeys s command talk p) ∧
      ∀ talk p, Converses s.close.2 talk p → submitted talk = [] := by
  constructor
  · intro command talk p h
    rcases start_cases s command with ⟨-, hstart⟩ | ⟨failure, hstart⟩ |
      ⟨session, task, hsession, hbegins, hstart⟩
    · rw [hstart] at h
      exact obeys_of_refused h
    · rw [hstart] at h
      exact obeys_of_refused h
    · rw [hstart] at h
      have hstage : Goes (Stage ⟨s.signer, s.config, session⟩ command [])
          (Finish ⟨s.signer, s.config, session⟩ command []) (.running task) := Stage.begun hbegins
      exact obeys_of_goes hsession (h.goes hstage)
  · intro talk p h
    unfold close at h
    cases hsession : s.session with
    | none =>
      rw [hsession] at h
      rw [h.of_ended.1]
      rfl
    | some session =>
      rw [hsession] at h
      cases h with
      | rest => rfl
      | exchange reply hrest =>
        cases reply with
        | ok _ | error _ =>
          rw [hrest.of_ended.1]
          rfl

open Ed25519 (neutralKey) in
/-- A node that knows nothing of record and account, and then goes away. -/
theorem converses_obeys_absent :
    let o : Opened := ⟨.neutral neutralKey, {}, Ledger.Config.session {}⟩
    let s : Store := ⟨o.signer, o.config, some o.session⟩
    let command : Command := .set [7] [1] [2]
    let x : Extrinsic := .neutral neutralKey 0 (o.session.encodeCall (.set [7] [1] [2]))
    let talk : List Exchange :=
      [⟨.storage (o.session.keys.recordAddress [7] [1]) none, .ok none⟩,
        ⟨nonceRequest o.session o.signer.account, .ok none⟩, ⟨.submit x, .error .closed⟩]
    let p := Progress.failed ⟨.submission .closed, some (.set, .submit)⟩
    Converses (command.start s) talk p ∧ Obeys s command talk p := by
  intro o s command x talk p
  have hstart : command.start s =
      .running (.set o [7] [1] [2] (o.session.keys.recordAddress [7] [1])) := by
    have haddress : o.session.keys.deriveAddress [7] [1] =
        .ok (o.session.keys.recordAddress [7] [1]) :=
      StorageKeys.deriveAddress_of_short (by decide) (by decide)
    have hopen : s.openFor .set = .ok o := rfl
    show set s [7] [1] [2] = _
    simp only [set, hopen, andThen, Opened.address, haddress]
  have htalk : Converses (command.start s) talk p := by
    rw [hstart]
    exact .exchange _ (.exchange _ (.exchange _ (.rest _)))
  exact ⟨htalk, (converses_obeys s).1 command talk p htalk⟩

end MetaLedger.Store
