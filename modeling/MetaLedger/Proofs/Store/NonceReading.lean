import MetaLedger.Proofs.Ledger.Acquaintance
import MetaLedger.Proofs.Ledger.Answers
import MetaLedger.Proofs.Store.Connection
import MetaLedger.Proofs.Store.Writing

/-!
# The nonce that is read is the nonce that counts

A store reads the first four bytes of what is filed of an account, the ledger all of it, and each has its
own way to take it that nothing is filed: the store is told that there is nothing, and may count from
zero; the ledger does count from zero. In every state that a ledger reaches the two agree, and what they
agree on is known from the past (`TellsNonce`). So if an account has nothing in the pool and nothing else
happens while it writes (`Undisturbed`), its transaction comes at the nonce that is next, and is refused
for other reasons, if at all (`InTurn`, `run_nonce_agrees`).
-/

namespace MetaLedger.Store

open Connecting (Fetches)
open Ledger (Rules Entries State Op Chronicle Introduced Measures)
open Progress (andThen)

/-! ## Reading -/

/-- Under whatever layout a store is connected, it reads at the addresses of this layout. -/
theorem keys_of_fetches {layout : Layout} {talk : List Exchange} {session : Session}
    (h : Fetches layout .none talk (.ok session)) : session.keys = StorageKeys.ofLayout layout := by
  rcases h.start_cases with ⟨before, f, e, -, hresult⟩ | ⟨schema, genesis, version, hresult, -⟩
  · cases hresult
  · exact (Session.resolve_eq_ok (conclude_eq_ok hresult.symm)).2.2.2

section Reading

variable {r : Rules} {e : Entries} {m : Contents} (h : Holds r e m) {a : AccountId}

include h

theorem Holds.nonceOfReply_of_knows (hknows : r.Knows e a) :
    nonceOfReply (.ok (e.get? (r.keys.accountAddress a))) = .ok (r.nonce e a) := by
  obtain ⟨info, hinfo⟩ := hknows
  rw [h.accounts, hinfo]
  unfold nonceOfReply Rules.nonce
  simp only [hinfo, Option.map_some, AccountInfo.decodeNonce_encode]

theorem Holds.nonceOfReply_of_not_knows (hunknown : ¬r.Knows e a) :
    nonceOfReply (.ok (e.get? (r.keys.accountAddress a))) = .error ⟨.notFound, none⟩ := by
  rw [h.accounts]
  cases hinfo : r.accountInfo? e a with
  | none => rfl
  | some info => exact absurd ⟨info, hinfo⟩ hunknown

end Reading

/-- What a reply tells a store of an account's nonce, by whether the ledger knows the account. -/
structure TellsNonce (r : Rules) (s : State) (a : AccountId) (known : Prop)
    (reply : Except Node.Error (Option Bytes)) : Prop where
  found : known → ∃ n, nonceOfReply reply = .ok n ∧ Measures r s a n
  /-- The pool goes on counting where the store is told that there is nothing: from zero. -/
  missing : ¬known → nonceOfReply reply = .error ⟨.notFound, none⟩ ∧ Measures r s a 0

theorem Holds.tellsNonce {r : Rules} {s : State} {m : Contents} (h : Holds r s.best m)
    (hopen : s.closed = false) {a : AccountId} {known : Prop} (hknown : r.Knows s.best a ↔ known) :
    TellsNonce r s a known (.ok (s.best.get? (r.keys.accountAddress a))) where
  found hfound :=
    ⟨_, h.nonceOfReply_of_knows (hknown.2 hfound), Ledger.measures_nonce hopen a⟩
  missing hunknown := by
    rw [← hknown] at hunknown
    have hmeasures := Ledger.measures_nonce (r := r) hopen a
    rw [Rules.nonce_eq_zero s.best a hunknown] at hmeasures
    exact ⟨h.nonceOfReply_of_not_knows hunknown, hmeasures⟩

/-! ## Nothing else happens -/

/-- With nothing else going on at a ledger, the exchanges bring an operation to a place, and the ledger to
a state: the ledger answers each request in the state in which the one before has left it, and whoever is
given a ticket goes on as soon as its holder has been told something. -/
inductive Undisturbed (r : Rules) (s : State) (p : Progress) :
    List Exchange → State → Progress → Prop
  | begun : Undisturbed r s p [] s p
  | replied {talk : List Exchange} {t next : State} {task : Task} {value : task.request.Reply}
      (hbefore : Undisturbed r s p talk t (.running task))
      (hserve : t.serve r task.request = (.reply value, next)) :
      Undisturbed r s p (talk ++ [⟨task.request, value⟩]) next (task.resume value)
  | told {talk : List Exchange} {t next : State} {task : Task} {ticket : Ledger.Ticket}
      {value : task.request.Reply} (hbefore : Undisturbed r s p talk t (.running task))
      (hserve : t.serve r task.request = (.waiting ticket, next))
      (hanswer : (next.answer? ticket).bind task.request.replyOfReceipt? = some value) :
      Undisturbed r s p (talk ++ [⟨task.request, value⟩]) next (task.resume value)

theorem Converses.concat {p : Progress} {talk : List Exchange} {task : Task}
    (h : Converses p talk (.running task)) (reply : task.request.Reply) :
    Converses p (talk ++ [⟨task.request, reply⟩]) (task.resume reply) := by
  generalize hq : Progress.running task = q at h
  induction h with
  | rest =>
    subst hq
    exact .exchange reply (.rest _)
  | exchange first _ ih => exact .exchange first (ih hq)

/-- The task hands the transaction in. -/
def Task.Submits (task : Task) (x : Extrinsic) : Prop :=
  task.request = .submit x ∨ task.request = .submitAndWatch x

/-- Who has handed a transaction in has nothing more to ask. -/
theorem Task.Submits.resume {task : Task} {x : Extrinsic} (h : task.Submits x)
    (reply : task.request.Reply) :
    Goes (fun _ => False) (fun _ => True) (task.resume reply) := by
  cases task with
  | submission => exact goes_andThen (fun _ _ => trivial) fun _ _ => trivial
  | inclusion =>
    exact goes_andThen (fun _ _ => trivial) fun _ _ =>
      goes_andThen (fun _ _ => trivial) fun _ _ => trivial
  | get | set | update | nonce | page | release => rcases h with h | h <;> cases h

/-- An operation that goes on after a reply has only read. -/
theorem Task.serve_of_running {task next : Task} {reply : task.request.Reply}
    (h : task.resume reply = .running next) (r : Rules) (s : State) :
    ∃ value, s.serve r task.request = (.reply value, s) := by
  cases task with
  | get | set | update | nonce | page => exact ⟨_, rfl⟩
  | submission op x =>
    have hsubmits : (Task.submission op x).Submits x := .inl rfl
    have hended := hsubmits.resume reply
    rw [h] at hended
    cases hended
  | inclusion op kind x =>
    have hsubmits : (Task.inclusion op kind x).Submits x := .inr rfl
    have hended := hsubmits.resume reply
    rw [h] at hended
    cases hended
  | release => cases reply <;> cases h

section Undisturbed

variable {r : Rules} {s t : State} {p q : Progress} {talk : List Exchange}

theorem Undisturbed.converses (h : Undisturbed r s p talk t q) : Converses p talk q := by
  induction h with
  | begun => exact .rest p
  | replied _ _ ih | told _ _ _ ih => exact ih.concat _

/-- As long as an operation goes on, the ledger is as it was, and has said so. -/
theorem Undisturbed.of_running {task : Task} (h : Undisturbed r s p talk t (.running task)) :
    t = s ∧ ∀ x ∈ talk, s.serve r x.request = (.reply x.reply, s) := by
  generalize hq : Progress.running task = q at h
  induction h generalizing task with
  | begun => exact ⟨rfl, nofun⟩
  | @replied talk t next before value hbefore hserve ih =>
    obtain ⟨rfl, hsaid⟩ := ih rfl
    obtain ⟨other, hread⟩ := Task.serve_of_running hq.symm r t
    cases hserve.symm.trans hread
    refine ⟨rfl, fun x hx => ?_⟩
    rcases List.mem_append.1 hx with hx | hx
    · exact hsaid x hx
    · rw [List.mem_singleton.1 hx]
      exact hread
  | @told talk t next before ticket value hbefore hserve _ ih =>
    obtain ⟨other, hread⟩ := Task.serve_of_running hq.symm r t
    cases hserve.symm.trans hread

end Undisturbed

/-! ## A transaction whose turn it is -/

theorem NonceIn.unique {o : Opened} {answer : Except Node.Error (Option Bytes)} {n m : Nonce}
    (hn : NonceIn o answer n) (hm : NonceIn o answer m) : n = m := by
  cases hn with
  | stored hfirst =>
    cases hm with
    | stored hsecond =>
      cases hfirst.symm.trans hsecond
      rfl
  | absent =>
    cases hm
    rfl

/-- What is handed in has been drawn up from what was said before. -/
theorem Stage.drafts {o : Opened} {command : Command} {talk : List Exchange} {task : Task}
    (h : Stage o command talk task) {x : Extrinsic} (hx : task.Submits x) :
    ∃ call, Drafts o command talk call x := by
  cases h with
  | begun hbegins => cases hbegins <;> rcases hx with hx | hx <;> cases hx
  | nonce | page => rcases hx with hx | hx <;> cases hx
  | submission _ hdrafts | inclusion _ hdrafts =>
    rcases hx with hx | hx <;> cases hx
    exact ⟨_, hdrafts⟩

/-- The error is about the nonce: it could not be read, or the pool refused the transaction for it. -/
def Error.OfNonce (e : Error) : Prop :=
  e.step? = some .fetchNonce ∨ ∃ reason, e.rejection? = some reason ∧ reason.OfNonce

/-- The reply is a failure that is about the nonce. -/
inductive Misnumbered : (task : Task) → task.request.Reply → Prop
  | unread {o : Opened} {op : Operation} {call : Call} {reply : Except Node.Error (Option Bytes)}
      {e : Error} (hunread : o.nonceFor op reply = .error e) : Misnumbered (.nonce o op call) reply
  | submission {op : Operation} {x : Extrinsic} {reason : Node.Rejection} (hnonce : reason.OfNonce) :
      Misnumbered (.submission op x) (.error (.rejected reason))
  | inclusion {op : Operation} {kind : CallKind} {x : Extrinsic} {reason : Node.Rejection}
      (hnonce : reason.OfNonce) : Misnumbered (.inclusion op kind x) (.error (.rejected reason))

theorem ofNonce_iff {cause : Cause} {op : Operation} {step : Step} :
    Error.OfNonce ⟨cause, some (op, step)⟩ ↔ step = .fetchNonce ∨
      ∃ reason : Node.Rejection, cause = .submission (.rejected reason) ∧ reason.OfNonce := by
  unfold Error.OfNonce Error.step? Error.rejection?
  refine or_congr (by simp) (exists_congr fun reason => and_congr_left fun _ => ?_)
  cases cause with
  | submission e => cases e <;> simp [Node.Error.rejection?]
  | _ => simp

/-- An error that is about the nonce comes of such a reply. -/
theorem Fault.misnumbered {task : Task} {reply : task.request.Reply} {step : Step} {cause : Cause}
    (h : Fault task reply step cause) {op : Operation}
    (hnonce : Error.OfNonce ⟨cause, some (op, step)⟩) : Misnumbered task reply := by
  rw [ofNonce_iff] at hnonce
  cases h with
  | nonce huncounted => exact .unread (nonceFor_eq_error_iff.2 ⟨_, huncounted, rfl⟩)
  | submission e =>
    rcases hnonce with hstep | ⟨reason, hcause, hof⟩
    · cases hstep
    · cases hcause
      exact .submission hof
  | inclusion e =>
    rcases hnonce with hstep | ⟨reason, hcause, hof⟩
    · cases hstep
    · cases hcause
      exact .inclusion hof
  | get hunread | set hunread | update hunread => cases hunread <;> simp at hnonce
  | transform | sign | dispatch | scan | key | release => simp at hnonce

section Replies

variable {r : Rules} {s next : State} {x : Extrinsic}

theorem submit_of_reply {reply : Except Node.Error TxHash}
    (h : s.serve r (.submit x) = (.reply reply, next)) : (s.submit r x false).1 = reply := by
  cases hsubmit : s.submit r x false with
  | mk answer t =>
    rw [serve_submit hsubmit] at h
    cases h
    rfl

/-- Who waits for a block and is refused at once is told the pool's reason. -/
theorem submit_of_refused {e : Node.Error}
    (h : s.serve r (.submitAndWatch x) = (.reply (.error e), next)) :
    (s.submit r x true).1 = .error e := by
  cases hsubmit : s.submit r x true with
  | mk answer t =>
    simp only [State.serve, hsubmit] at h
    cases answer with
    | ok hash => cases h
    | error failure =>
      cases h
      rfl

end Replies

/-- A store whose account has nothing in the pool of a ledger, and that looks where the ledger files. -/
structure Alone (r : Rules) (s : State) (o : Opened) : Prop where
  isOpen : s.closed = false
  holds : ∃ m, Holds r s.best m
  minded : s.Minded []
  keys : o.session.keys = r.keys
  absent : o.config.absentAccount = .assumeZero
  untouched : s.Untouched r o.signer.account (r.nonce s.best o.signer.account)

namespace Alone

variable {r : Rules} {s : State} {o : Opened} (h : Alone r s o)

include h

theorem serve_nonce : s.serve r (nonceRequest o.session o.signer.account) =
    (.reply (.ok (s.best.get? (r.keys.accountAddress o.signer.account))), s) := by
  unfold nonceRequest
  rw [h.keys]
  exact serve_storage h.isOpen _

theorem nonceFor_eq (op : Operation) :
    o.nonceFor op (.ok (s.best.get? (r.keys.accountAddress o.signer.account))) =
      .ok (r.nonce s.best o.signer.account) := by
  obtain ⟨m, hholds⟩ := h.holds
  exact hholds.nonceFor_eq h.absent op _

/-- What is drawn up from what the ledger has said carries the account's nonce. -/
theorem drawn {command : Command} {talk : List Exchange} {call : Call} {x : Extrinsic}
    (hdrafts : Drafts o command talk call x)
    (hsaid : ∀ y ∈ talk, s.serve r y.request = (.reply y.reply, s)) :
    x.signer = o.signer.account ∧ x.nonce = r.nonce s.best o.signer.account := by
  cases hdrafts with
  | signed _ hnonce =>
    refine ⟨rfl, ?_⟩
    have hserve := hsaid _ (List.mem_append_right _ (List.mem_singleton_self _))
    cases h.serve_nonce.symm.trans hserve
    exact hnonce.unique (nonceFor_eq_ok (h.nonceFor_eq .set))

/-- The account's transaction at its nonce is accepted, or refused for something else. -/
theorem submit_cases {x : Extrinsic} (hsigner : x.signer = o.signer.account)
    (hnonce : x.nonce = r.nonce s.best o.signer.account) (watched : Bool) :
    (s.submit r x watched).1 = .ok x.hash ∨
      ∃ reason : Node.Rejection, ¬reason.OfNonce ∧
        (s.submit r x watched).1 = .error (.rejected reason) := by
  rcases h.untouched.validate_cases hsigner hnonce with ⟨call, hvalid⟩ | ⟨reason, hof, hinvalid⟩
  · rw [State.submit_of_ok h.isOpen hvalid]
    exact .inl rfl
  · exact .inr ⟨reason, hof, (State.submit_eq_rejected_iff h.isOpen watched).2 hinvalid⟩

theorem not_ofNonce {x : Extrinsic} (hsigner : x.signer = o.signer.account)
    (hnonce : x.nonce = r.nonce s.best o.signer.account) {watched : Bool} {reason : Node.Rejection}
    (hrefused : (s.submit r x watched).1 = .error (.rejected reason)) : ¬reason.OfNonce := by
  rcases h.submit_cases hsigner hnonce watched with hok | ⟨other, hother, hreply⟩
  · cases hok.symm.trans hrefused
  · cases hreply.symm.trans hrefused
    exact hother

/-- No reply of the ledger is a failure that is about the nonce. -/
theorem not_misnumbered {command : Command} {task : Task} (hbelongs : Belongs o command task)
    (hdrawn : ∀ x, task.Submits x →
      x.signer = o.signer.account ∧ x.nonce = r.nonce s.best o.signer.account)
    {value : task.request.Reply} {next : State}
    (hserve : s.serve r task.request = (.reply value, next)) : ¬Misnumbered task value := by
  intro hmis
  cases hmis with
  | @unread other op call reply e hunread =>
    have hsame : other = o := by
      cases hbelongs with
      | begun hbegins =>
        cases hbegins
        rfl
      | nonce => rfl
    subst hsame
    cases h.serve_nonce.symm.trans hserve
    cases (h.nonceFor_eq op).symm.trans hunread
  | @submission op x reason hof =>
    obtain ⟨hsigner, hnonce⟩ := hdrawn x (.inl rfl)
    exact h.not_ofNonce hsigner hnonce (submit_of_reply hserve) hof
  | @inclusion op kind x reason hof =>
    obtain ⟨hsigner, hnonce⟩ := hdrawn x (.inr rfl)
    exact h.not_ofNonce hsigner hnonce (submit_of_refused hserve) hof

/-- Whoever holds a ticket is not told of a nonce. -/
theorem not_misnumbered_told {task : Task} {value : task.request.Reply} {ticket : Ledger.Ticket}
    {next : State} (hserve : s.serve r task.request = (.waiting ticket, next))
    (hanswer : (next.answer? ticket).bind task.request.replyOfReceipt? = some value) :
    ¬Misnumbered task value := by
  intro hmis
  have hminded := (h.minded.serve hserve).2
  cases hmis with
  | unread => cases hserve
  | submission => cases hserve
  | @inclusion op kind x reason hof =>
    obtain ⟨answer, htold, hvalue⟩ := Option.bind_eq_some_iff.1 hanswer
    cases hvalue
    rcases hminded.honest _ (State.mem_of_answer? htold) with ⟨receipt, hreceipt⟩ | hclosed
    · cases hreceipt
    · cases hclosed

end Alone

/-! ## Writing -/

/-- A command of an account whose turn it is, with nothing else going on. -/
structure InTurn (r : Rules) (s : State) (store : Store) (command : Command) : Prop where
  /-- What it hands in is the account's, at the account's nonce, and not refused for it. -/
  handedIn : ∀ {talk : List Exchange} {t : State} {task : Task},
    Undisturbed r s (command.start store) talk t (.running task) →
      ∀ x, task.Submits x → t = s ∧ x.signer = store.signer.account ∧
        x.nonce = r.nonce s.best store.signer.account ∧
        ∀ watched, (s.submit r x watched).1 = .ok x.hash ∨
          ∃ reason : Node.Rejection, ¬reason.OfNonce ∧
            (s.submit r x watched).1 = .error (.rejected reason)
  /-- If it fails, it is for something else. -/
  failed : (Invocation.run store command).Aborts → ∀ {talk : List Exchange} {t : State}
    {p : Progress}, Undisturbed r s (command.start store) talk t p →
      ∀ e, Fails p e → ¬e.OfNonce

section InTurn

variable {r : Rules} {s t : State} {store : Store} {session : Session} {command : Command}
  {talk : List Exchange} {task : Task}

/-- Where a command of an open store is. -/
theorem Undisturbed.place (hsession : store.session = some session)
    (h : Undisturbed r s (command.start store) talk t (.running task)) :
    let o : Opened := ⟨store.signer, store.config, session⟩
    Stage o command talk task ∧ Belongs o command task := by
  intro o
  obtain ⟨found, first, hfound, hbegins, htalk⟩ := h.converses.begun
  cases hsession.symm.trans hfound
  have hstage : Goes (Stage o command []) (Finish o command []) (.running first) :=
    Stage.begun hbegins
  have hbelongs : Goes (Belongs o command) (fun _ => True) (.running first) := .begun hbegins
  exact ⟨htalk.goes hstage, htalk.belongs hbelongs⟩

/-- If the next reply makes a command fail for the nonce, it is a failure of that kind. -/
theorem Undisturbed.misnumbered (hsession : store.session = some session)
    (haborts : (Invocation.run store command).Aborts)
    (h : Undisturbed r s (command.start store) talk t (.running task)) {value : task.request.Reply}
    {e : Error} (hfails : Fails (task.resume value) e) (hof : e.OfNonce) :
    Misnumbered task value := by
  have hbelongs := (h.place hsession).2
  obtain ⟨step, cause, hfault, rfl⟩ := (Task.resume_fails_iff (hbelongs.aborts haborts)).1 hfails
  exact hfault.misnumbered hof

theorem Alone.inTurn (hsession : store.session = some session)
    (h : Alone r s ⟨store.signer, store.config, session⟩) : InTurn r s store command := by
  have hdrawn : ∀ {talk : List Exchange} {t : State} {task : Task},
      Undisturbed r s (command.start store) talk t (.running task) → ∀ x, task.Submits x →
        x.signer = store.signer.account ∧ x.nonce = r.nonce s.best store.signer.account := by
    intro talk t task hrun x hx
    obtain ⟨call, hdrafts⟩ := (hrun.place hsession).1.drafts hx
    exact h.drawn hdrafts hrun.of_running.2
  constructor
  · intro talk t task hrun x hx
    obtain ⟨hsigner, hnonce⟩ := hdrawn hrun x hx
    exact ⟨hrun.of_running.1, hsigner, hnonce, h.submit_cases hsigner hnonce⟩
  · intro haborts talk t p hrun e hfails hof
    cases hrun with
    | begun =>
      rcases start_cases store command with ⟨-, hstart⟩ | ⟨failure, hstart⟩ |
        ⟨found, first, -, -, hstart⟩
      · rw [hstart, fails_ended_iff] at hfails
        cases hfails
        simp [ofNonce_iff] at hof
      · rw [hstart, fails_ended_iff] at hfails
        cases hfails
        simp [ofNonce_iff] at hof
      · rw [hstart] at hfails
        exact fails_running hfails
    | replied hbefore hserve =>
      have hmis := hbefore.misnumbered hsession haborts hfails hof
      obtain ⟨rfl, -⟩ := hbefore.of_running
      exact h.not_misnumbered (hbefore.place hsession).2 (hdrawn hbefore) hserve hmis
    | told hbefore hserve hanswer =>
      have hmis := hbefore.misnumbered hsession haborts hfails hof
      obtain ⟨rfl, -⟩ := hbefore.of_running
      exact h.not_misnumbered_told hserve hanswer hmis

end InTurn

/-! ## Every state -/

/-- **The nonce that is read is the nonce that counts.** However a ledger was used, as long as it is open:
a store that is connected under the ledger's layout is told the nonce by which the pool measures the
account's transactions, if the account was ever funded or had a transaction executed, and else that
nothing is found, and then the pool counts from zero. So if nothing is found to mean zero, an account
with nothing in the pool, and with nothing else going on while it writes, is not refused for its nonce. -/
theorem run_nonce_agrees (c : Ledger.Config) (separate : (StorageKeys.ofLayout c.layout).Separate)
    (ops : List Op) :
    let r := Rules.ofConfig c
    let h := (Chronicle.initial r).run r ops
    let s := (State.initial r).run r ops
    s.closed = false → ∀ talk session, Fetches c.layout .none talk (.ok session) →
      h.state = s ∧
      (∀ a, ∃ reply, s.serve r (nonceRequest session a) = (.reply reply, s) ∧
        TellsNonce r s a (Introduced ops h.executed a) reply) ∧
      ∀ store : Store, store.session = some session → store.config.absentAccount = .assumeZero →
        (∀ e ∈ s.ready ++ s.future, e.signer ≠ store.signer.account) →
        ∀ command, InTurn r s store command := by
  intro r h s hopen talk session hfetches
  have hstate : h.state = s := Chronicle.run_state r _ ops
  have hkeys : session.keys = r.keys := keys_of_fetches hfetches
  obtain ⟨m, hfiled⟩ := ((InOrder.initial r).run separate ops).best
  have hknown : ∀ a, r.Knows s.best a ↔ Introduced ops h.executed a := by
    intro a
    rw [← hstate]
    exact Chronicle.knows_run_iff separate.disjoint ops
  refine ⟨hstate, fun a => ?_, ?_⟩
  · refine ⟨.ok (s.best.get? (r.keys.accountAddress a)), ?_, hfiled.holds.tellsNonce hopen (hknown a)⟩
    unfold nonceRequest
    rw [hkeys]
    exact serve_storage hopen _
  · intro store hsession habsent halone command
    have hminded : s.Minded [] :=
      State.preserved_run (fun _ op h => h.step r op) (State.Minded.initial r) ops
    exact Alone.inTurn hsession
      ⟨hopen, ⟨m, hfiled.holds⟩, hminded, hkeys, habsent, halone, rfl⟩

open Ed25519 (neutralKey signedNeutralKey) in
/-- One account has sent a transaction, and another one, which has not, is about to write. -/
theorem run_nonce_agrees_stranger :
    let c : Ledger.Config := { sealMode := .manual }
    let r := Rules.ofConfig c
    let ops : List Op := [.submitNeutral neutralKey 0 (.set [7] [1] [2]), .block]
    let s := (State.initial r).run r ops
    let store : Store := ⟨.neutral signedNeutralKey, {}, some c.session⟩
    (∃ reply, s.serve r (nonceRequest c.session ⟨neutralKey⟩) = (.reply reply, s) ∧
      nonceOfReply reply = .ok 1) ∧
    (∃ reply, s.serve r (nonceRequest c.session store.signer.account) = (.reply reply, s) ∧
      nonceOfReply reply = .error ⟨.notFound, none⟩) ∧
    ∀ command, InTurn r s store command := by
  intro c r ops s store
  let h := (Chronicle.initial r).run r ops
  have hstate : h.state = (State.initial r).run r ops := Chronicle.run_state r _ ops
  obtain ⟨hopen, hpool, hexecuted, hnonce⟩ : h.state.closed = false ∧
      h.state.ready ++ h.state.future = [] ∧ h.executed.map (·.signer) = [⟨neutralKey⟩] ∧
      r.nonce h.state.best ⟨neutralKey⟩ = 1 := by decide +kernel
  have hfetches : Fetches c.layout .none [⟨.runtimeSchema, .ok r.schema⟩,
      ⟨.genesisHash, .ok r.genesis⟩, ⟨.runtimeVersion, .ok r.version⟩] (.ok c.session) := by
    rw [← conclude_eq_session (c := c) ⟨by decide, by decide⟩]
    exact .answered .schema rfl r.schema (.answered .genesis rfl r.genesis
      (.answered .version rfl r.version (.concluded rfl rfl rfl)))
  rw [hstate] at hopen hpool hnonce
  obtain ⟨-, htold, hwrites⟩ :=
    run_nonce_agrees c (by decide +kernel) ops hopen _ c.session hfetches
  have hsent : ∀ a, Introduced ops h.executed a ↔ a = ⟨neutralKey⟩ := by
    intro a
    have hfunded : ¬∃ free, Op.fund a free ∈ ops := by
      rintro ⟨free, hmem⟩
      simp [ops, Op.submitNeutral] at hmem
    have hmem : (∃ tx ∈ h.executed, tx.signer = a) ↔ a ∈ h.executed.map (·.signer) := by simp
    unfold Introduced
    rw [or_iff_right hfunded, hmem, hexecuted, List.mem_singleton]
  refine ⟨?_, ?_, hwrites store rfl rfl ?_⟩
  · obtain ⟨reply, hserve, hreply⟩ := htold ⟨neutralKey⟩
    obtain ⟨n, hread, hmeasures⟩ := hreply.found ((hsent _).2 rfl)
    refine ⟨reply, hserve, ?_⟩
    rw [hread, ← hmeasures.nonce, hnonce]
  · obtain ⟨reply, hserve, hreply⟩ := htold store.signer.account
    exact ⟨reply, hserve, (hreply.missing (mt (hsent _).1 (by decide))).1⟩
  · rw [hpool]
    exact nofun

end MetaLedger.Store
