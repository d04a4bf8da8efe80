import MetaLedger.Proofs.Store.Faults
import MetaLedger.Proofs.Store.Fetching

/-!
# Every failure names its operation and step

Whatever a node answers, and in whatever way a signer or a caller's function fails, what an operation
gives back is one cause under one pair of operation and step: the operation that was called, and the step
at which the cause arose (`Arises`). A step is named where its cause is noticed and nowhere else, because
an error that names one keeps it, however often it is put under others (`Wrapped.foldl_during`); so each
cause turns up at the few steps that can have it (`Cause.steps`), and the caller can rely on them
(`fails_named`).
-/

namespace MetaLedger.Store

open Connecting (Fact Connects Fetches conclude)
open Progress (andThen)

/-! ## Wrapping -/

/-- An error as it is put together: a cause, put under an operation and step any number of times. -/
inductive Wrapped where
  | bare (cause : Cause)
  | op (operation : Operation) (step : Step) (source : Wrapped)

namespace Wrapped

/-- Puts an error under an operation and step, unless it is under one already. -/
def during : Wrapped → Operation → Step → Wrapped
  | bare cause, operation, step => op operation step (bare cause)
  | op operation step source, _, _ => op operation step source

/-- The cause, below all operations and steps. -/
def root : Wrapped → Cause
  | bare cause => cause
  | op _ _ source => source.root

def operation? : Wrapped → Option Operation
  | bare _ => none
  | op operation _ _ => some operation

def step? : Wrapped → Option Step
  | bare _ => none
  | op _ step _ => some step

/-- Puts an error under operations and steps, one after the other. -/
def duringAll (e : Wrapped) (wraps : List (Operation × Step)) : Wrapped :=
  wraps.foldl (fun e wrap => e.during wrap.1 wrap.2) e

theorem duringAll_op (operation : Operation) (step : Step) (source : Wrapped)
    (wraps : List (Operation × Step)) :
    (op operation step source).duringAll wraps = op operation step source := by
  induction wraps with
  | nil => rfl
  | cons wrap wraps ih => exact ih

end Wrapped

namespace Error

/-- An error is wrapped once, or not at all. -/
def wrapped (e : Error) : Wrapped :=
  match e.context with
  | none => .bare e.cause
  | some (operation, step) => .op operation step (.bare e.cause)

/-- Puts an error under operations and steps, one after the other. -/
def duringAll (e : Error) (wraps : List (Operation × Step)) : Error :=
  wraps.foldl (fun e wrap => e.during wrap.1 wrap.2) e

variable (e : Error) (operation : Operation) (step : Step)

theorem wrapped_during : (e.during operation step).wrapped = e.wrapped.during operation step := by
  obtain ⟨cause, context⟩ := e
  cases context <;> rfl

theorem wrapped_duringAll (wraps : List (Operation × Step)) :
    (e.duringAll wraps).wrapped = e.wrapped.duringAll wraps := by
  induction wraps generalizing e with
  | nil => rfl
  | cons wrap wraps ih =>
    have hfirst := wrapped_during e wrap.1 wrap.2
    show ((e.during wrap.1 wrap.2).duringAll wraps).wrapped =
      (e.wrapped.during wrap.1 wrap.2).duringAll wraps
    rw [ih, hfirst]

theorem wrapped_operation? : e.wrapped.operation? = e.operation? := by
  obtain ⟨cause, context⟩ := e
  cases context <;> rfl

theorem wrapped_step? : e.wrapped.step? = e.step? := by
  obtain ⟨cause, context⟩ := e
  cases context <;> rfl

end Error

/-! ## Operations -/

/-- What is asked of a store, or to have one. -/
inductive Invocation where
  | connect (config : Config)
  | run (s : Store) (command : Command)
  | close (s : Store)

namespace Invocation

def operation : Invocation → Operation
  | connect _ => .connect
  | run _ command => command.operation
  | close _ => .close

def submission : Invocation → SubmissionMode
  | connect config => config.submission
  | run s _ | close s => s.config.submission

/-- A function that is given to it fails only to give up. -/
def Aborts : Invocation → Prop
  | run _ (.update _ _ transform) => transform.Aborts
  | _ => True

/-- After the exchanges, the caller is given the error. The node answers as it likes, and to a
connection that asks for all facts at once, also in the order it likes. -/
inductive Fails : Invocation → List Exchange → Error → Prop
  | connect {config : Config} {talk : List Exchange} {e : Error}
      (htalk : Connects config.layout (Connecting.start config) talk (.ended (.error e))) :
      Fails (.connect config) talk e
  | fetch {config : Config} {talk : List Exchange} {e : Error}
      (hstart : Connecting.start config = .running .schema)
      (htalk : Fetches config.layout .none talk (.error e)) : Fails (.connect config) talk e
  | run {s : Store} {command : Command} {talk : List Exchange} {p : Progress} {e : Error}
      (htalk : Converses (command.start s) talk p) (hfails : Store.Fails p e) :
      Fails (.run s command) talk e
  | close {s : Store} {talk : List Exchange} {p : Progress} {e : Error}
      (htalk : Converses s.close.2 talk p) (hfails : Store.Fails p e) : Fails (.close s) talk e

end Invocation

/-- Where a command reads or writes, if its names are not too long. -/
def Command.filedAt (keys : StorageKeys) : Command → Except Failure Address
  | .get ns key | .set ns key _ | .delete ns key | .update ns key _ => keys.deriveAddress ns key
  | .listKeys ns => keys.namespacePrefix ns

/-- After the exchanges, the cause arises at the step. -/
inductive Arises : Invocation → List Exchange → Step → Cause → Prop
  | config {config : Config} {cause : ConfigCause}
      (hconfig : config.validate = .error ⟨.config cause, none⟩) :
      Arises (.connect config) [] .validateConfig (.config cause)
  | fetch {config : Config} {before : List Exchange} (f : Fact) (e : Node.Error) :
      Arises (.connect config) (before ++ [⟨f.request, .error e⟩]) f.step (.chainQuery e)
  | resolve {config : Config} {talk : List Exchange} {schema : RuntimeSchema} {genesis : BlockHash}
      {version : RuntimeVersion} {failure : Failure} (hschema : ⟨.runtimeSchema, .ok schema⟩ ∈ talk)
      (hgenesis : ⟨.genesisHash, .ok genesis⟩ ∈ talk)
      (hversion : ⟨.runtimeVersion, .ok version⟩ ∈ talk)
      (hresolve : Session.resolve schema ⟨genesis, version⟩ config.layout = .error failure) :
      Arises (.connect config) talk .resolveSchema (.schema failure)
  | closed {s : Store} {command : Command} (hclosed : s.session = none) :
      Arises (.run s command) [] .acquireSession .closed
  | address {s : Store} {command : Command} {session : Session} {failure : Failure}
      (hsession : s.session = some session)
      (haddress : command.filedAt session.keys = .error failure) :
      Arises (.run s command) [] .deriveAddress (.addressDerivation failure)
  | reply {s : Store} {command : Command} {before : List Exchange} {task : Task}
      {reply : task.request.Reply} {step : Step} {cause : Cause}
      (hreached : Converses (command.start s) before (.running task))
      (hfault : Fault task reply step cause) :
      Arises (.run s command) (before ++ [⟨task.request, reply⟩]) step cause
  | release {s : Store} (e : Node.Error) :
      Arises (.close s) [⟨.close, .error e⟩] .release (.chainQuery e)

/-- The steps at which a cause can arise. -/
def Cause.steps (mode : SubmissionMode) : Cause → List Step
  | .encoding _ => [.decode, .fetchNonce]
  | .addressDerivation _ => [.deriveAddress]
  | .chainQuery _ => [.fetchSchema, .fetchGenesis, .fetchRuntimeVersion, .queryState, .fetchNonce,
      .scanKeys, .release]
  | .notFound => [.queryState, .fetchNonce]
  | .signing _ => [.sign]
  | .submission _ => [.submit]
  | .dispatch .. =>
    match mode with
    | .pool => []
    | .inBlock => [.awaitInclusion]
  | .schema _ => [.resolveSchema]
  | .config _ => [.validateConfig]
  | .updateAborted _ => [.transform]
  | .closed => [.acquireSession]

/-! ## Commands -/

/-- The task is one of the command's, and hands in what it hands in as the configuration has it. -/
inductive Belongs (o : Opened) (command : Command) : Task → Prop
  | begun {task : Task} (hbegins : Begins o command task) : Belongs o command task
  | nonce (call : Call) : Belongs o command (.nonce o command.operation call)
  | submission (hmode : o.config.submission = .pool) (x : Extrinsic) :
      Belongs o command (.submission command.operation x)
  | inclusion (hmode : o.config.submission = .inBlock) (kind : CallKind) (x : Extrinsic) :
      Belongs o command (.inclusion command.operation kind x)
  | page (hlist : command.operation = .listKeys) {start : Address}
      (hstart : command.filedAt o.session.keys = .ok start) (after : Option Address)
      (delivered : List Bytes) : Belongs o command (.page o start after delivered)

section Commands

variable {o : Opened} {command : Command} {task : Task}

theorem Belongs.operation_eq (h : Belongs o command task) : task.operation = command.operation := by
  cases h with
  | begun hbegins => cases hbegins <;> rfl
  | nonce | submission | inclusion => rfl
  | page hlist => exact hlist.symm

theorem Belongs.aborts (h : Belongs o command task) {s : Store}
    (haborts : (Invocation.run s command).Aborts) : task.Aborts := by
  cases h with
  | begun hbegins =>
    cases hbegins with
    | update => exact haborts
    | get | set | delete | listKeys => trivial
  | nonce | submission | inclusion | page => trivial

theorem goes_nonce (call : Call) (reply : Except Node.Error (Option Bytes)) :
    Goes (Belongs o command) (fun _ => True)
      ((Task.nonce o command.operation call).resume reply) := by
  refine goes_andThen (fun _ _ => trivial) fun n _ => ?_
  refine goes_andThen (fun _ _ => trivial) fun x _ => ?_
  unfold Task.submit
  cases hmode : o.config.submission with
  | pool => exact Belongs.submission hmode x
  | inBlock => exact Belongs.inclusion hmode call.kind x

theorem goes_pages (hlist : command.operation = .listKeys) {start : Address}
    (hstart : command.filedAt o.session.keys = .ok start) (after : Option Address)
    (delivered : List Bytes) (reply : Except Node.Error (List Address)) :
    Goes (Belongs o command) (fun _ => True)
      ((Task.page o start after delivered).resume reply) := by
  cases reply with
  | error e => trivial
  | ok addresses =>
    simp only [Task.resume]
    split
    · trivial
    · split
      · trivial
      · exact Belongs.page hlist hstart _ _

/-- A command goes on with its own tasks. -/
theorem Belongs.resume (h : Belongs o command task) (reply : task.request.Reply) :
    Goes (Belongs o command) (fun _ => True) (task.resume reply) := by
  cases h with
  | begun hbegins =>
    cases hbegins with
    | get => exact goes_andThen (fun _ _ => trivial) fun _ _ => trivial
    | set => exact goes_andThen (fun _ _ => trivial) fun _ _ => Belongs.nonce _
    | delete => exact goes_nonce _ reply
    | update =>
      refine goes_andThen (fun _ _ => trivial) fun old _ => ?_
      exact goes_andThen (fun _ _ => trivial) fun _ _ => Belongs.nonce _
    | @listKeys ns start hstart =>
      have hfiled : (Command.listKeys ns).filedAt o.session.keys = .ok start := hstart
      exact goes_pages rfl hfiled none [] reply
  | nonce call => exact goes_nonce call reply
  | submission => exact goes_andThen (fun _ _ => trivial) fun _ _ => trivial
  | inclusion =>
    refine goes_andThen (fun _ _ => trivial) fun receipt _ => ?_
    exact goes_andThen (fun _ _ => trivial) fun _ _ => trivial
  | page hlist hstart => exact goes_pages hlist hstart _ _ reply

theorem Converses.belongs {talk : List Exchange} {p q : Progress} (h : Converses p talk q)
    (hp : Goes (Belongs o command) (fun _ => True) p) :
    Goes (Belongs o command) (fun _ => True) q := by
  induction h with
  | rest p => exact hp
  | exchange reply _ ih => exact ih (Belongs.resume hp reply)

/-- A command that waits for a reply has begun, at an open store. -/
theorem Converses.begun {s : Store} {talk : List Exchange}
    (h : Converses (command.start s) talk (.running task)) :
    ∃ session first, s.session = some session ∧
      Begins ⟨s.signer, s.config, session⟩ command first ∧
      Converses (.running first) talk (.running task) := by
  rcases start_cases s command with ⟨-, hstart⟩ | ⟨failure, hstart⟩ |
    ⟨session, first, hsession, hbegins, hstart⟩
  · rw [hstart] at h
    cases h.of_ended.2
  · rw [hstart] at h
    cases h.of_ended.2
  · rw [hstart] at h
    exact ⟨session, first, hsession, hbegins, h⟩

/-- **A whole conversation.** If it ends in an error, something was wrong with the last reply, and the
error says what and where. -/
theorem Converses.fails {talk : List Exchange} {q : Progress} {e : Error} {s : Store}
    (haborts : (Invocation.run s command).Aborts) (h : Converses (.running task) talk q)
    (hbelongs : Belongs o command task) (hfails : Fails q e) :
    ∃ before last reply step cause, talk = before ++ [⟨Task.request last, reply⟩] ∧
      Converses (.running task) before (.running last) ∧
      Fault last reply step cause ∧ e = ⟨cause, some (command.operation, step)⟩ := by
  generalize hp : Progress.running task = p at h
  induction h generalizing task with
  | rest p =>
    subst hp
    exact absurd hfails fails_running
  | @exchange asked talk q reply hrest ih =>
    cases hp
    have hgoes := hbelongs.resume reply
    cases hnext : asked.resume reply with
    | running next =>
      rw [hnext] at hrest hgoes
      obtain ⟨before, last, reply', step, cause, rfl, hreached, hfault, rfl⟩ :=
        ih hgoes hfails hnext.symm
      exact ⟨_ :: before, last, reply', step, cause, rfl, .exchange reply hreached, hfault, rfl⟩
    | ended delivered result =>
      rw [hnext] at hrest
      obtain ⟨rfl, rfl⟩ := hrest.of_ended
      rw [← hnext] at hfails
      obtain ⟨step, cause, hfault, rfl⟩ :=
        (Task.resume_fails_iff (hbelongs.aborts haborts)).1 hfails
      refine ⟨[], asked, reply, step, cause, rfl, .rest _, hfault, ?_⟩
      rw [hbelongs.operation_eq]

/-- A command of an open store begins with the address of what it is about. -/
theorem start_eq {s : Store} {session : Session} (hsession : s.session = some session)
    (command : Command) :
    ∃ task : Address → Task, command.start s =
      andThen
        (match command.filedAt session.keys with
        | .ok address => .ok address
        | .error failure => failAt command.operation .deriveAddress (.addressDerivation failure))
        fun address => .running (task address) := by
  have hopen := openFor_eq hsession
  cases command with
  | get ns key =>
    refine ⟨.get ⟨s.signer, s.config, session⟩, ?_⟩
    simp only [Command.start, get, hopen]
    rfl
  | set ns key data =>
    refine ⟨.set ⟨s.signer, s.config, session⟩ ns key data, ?_⟩
    simp only [Command.start, set, hopen]
    rfl
  | delete ns key =>
    refine ⟨fun _ => .nonce ⟨s.signer, s.config, session⟩ .delete (.delete ns key), ?_⟩
    simp only [Command.start, delete, hopen]
    rfl
  | update ns key transform =>
    refine ⟨.update ⟨s.signer, s.config, session⟩ ns key transform, ?_⟩
    simp only [Command.start, update, hopen]
    rfl
  | listKeys ns =>
    refine ⟨fun start => .page ⟨s.signer, s.config, session⟩ start none [], ?_⟩
    simp only [Command.start, listKeys, hopen]
    rfl

/-- A command that does not begin is refused by a closed store, or for its names. -/
theorem start_fails {s : Store} {e : Error} (h : Fails (command.start s) e) :
    ∃ step cause, Arises (.run s command) [] step cause ∧
      e = ⟨cause, some (command.operation, step)⟩ := by
  cases hsession : s.session with
  | none =>
    rw [start_of_closed hsession] at h
    cases fails_ended_iff.1 h
    exact ⟨.acquireSession, .closed, .closed hsession, rfl⟩
  | some session =>
    obtain ⟨task, hstart⟩ := start_eq hsession command
    rw [hstart] at h
    rcases fails_andThen_iff.1 h with hrefused | ⟨address, -, h⟩
    · cases haddress : command.filedAt session.keys with
      | ok address =>
        rw [haddress] at hrefused
        cases hrefused
      | error failure =>
        rw [haddress] at hrefused
        cases hrefused
        exact ⟨.deriveAddress, .addressDerivation failure, .address hsession haddress, rfl⟩
    · exact absurd h fails_running

/-- A command fails as it is set off, or at a reply. -/
theorem run_fails {s : Store} (haborts : (Invocation.run s command).Aborts)
    {talk : List Exchange} {p : Progress} (h : Converses (command.start s) talk p) {e : Error}
    (hfails : Fails p e) :
    ∃ step cause, Arises (.run s command) talk step cause ∧
      e = ⟨cause, some (command.operation, step)⟩ := by
  cases hstart : command.start s with
  | ended delivered result =>
    rw [hstart] at h
    obtain ⟨rfl, rfl⟩ := h.of_ended
    rw [← hstart] at hfails
    exact start_fails hfails
  | running task =>
    obtain ⟨session, first, -, hbegins, hfirst⟩ :=
      (start_cases s command).resolve_left (by rw [hstart]; nofun) |>.resolve_left
        (by rw [hstart]; nofun)
    rw [hstart] at h
    cases hstart.symm.trans hfirst
    obtain ⟨before, last, reply, step, cause, rfl, hreached, hfault, rfl⟩ :=
      h.fails haborts (.begun hbegins) hfails
    rw [← hstart] at hreached
    exact ⟨step, cause, .reply hreached hfault, rfl⟩

end Commands

/-! ## Connecting -/

theorem validate_eq_error {config : Config} {e : Error} (h : config.validate = .error e) :
    ∃ cause, e = ⟨.config cause, none⟩ := by
  unfold Config.validate at h
  dsimp only at h
  split at h
  · cases h
    exact ⟨_, rfl⟩
  · split at h
    · cases h
      exact ⟨_, rfl⟩
    · cases h

theorem conclude_eq_error {layout : Layout} {schema : RuntimeSchema} {genesis : BlockHash}
    {version : RuntimeVersion} {e : Error} (h : conclude layout schema genesis version = .error e) :
    ∃ failure, Session.resolve schema ⟨genesis, version⟩ layout = .error failure ∧
      e = ⟨.schema failure, some (.connect, .resolveSchema)⟩ := by
  obtain ⟨cause, hparts, rfl⟩ := mapError_eq_error h
  unfold Session.ofParts at hparts
  split at hparts
  · cases hparts
  · next failure hresolve =>
    cases hparts
    exact ⟨failure, hresolve, rfl⟩

theorem start_connecting_cases (config : Config) :
    (∃ cause, config.validate = .error ⟨.config cause, none⟩ ∧ Connecting.start config =
      .ended (.error ⟨.config cause, some (.connect, .validateConfig)⟩)) ∨
    Connecting.start config = .running .schema := by
  unfold Connecting.start
  cases hvalid : config.validate with
  | ok u => exact .inr rfl
  | error e =>
    obtain ⟨cause, rfl⟩ := validate_eq_error hvalid
    exact .inl ⟨cause, rfl, rfl⟩

/-- What is fetched fails at one of the answers, or for what they say. -/
theorem fetch_fails {config : Config} {talk : List Exchange} {e : Error}
    (h : Fetches config.layout .none talk (.error e)) :
    ∃ step cause, Arises (.connect config) talk step cause ∧ e = ⟨cause, some (.connect, step)⟩ := by
  rcases h.start_cases with ⟨before, f, failure, rfl, hresult⟩ |
    ⟨schema, genesis, version, hresult, hschema, hgenesis, hversion⟩
  · cases hresult
    exact ⟨f.step, .chainQuery failure, .fetch f failure, rfl⟩
  · obtain ⟨failure, hresolve, rfl⟩ := conclude_eq_error hresult.symm
    exact ⟨.resolveSchema, .schema failure, .resolve hschema hgenesis hversion hresolve, rfl⟩

/-- A connection fails for its configuration, or with what it fetches. -/
theorem connect_fails {config : Config} {talk : List Exchange} {e : Error}
    (h : (Invocation.connect config).Fails talk e) :
    ∃ step cause, Arises (.connect config) talk step cause ∧ e = ⟨cause, some (.connect, step)⟩ := by
  cases h with
  | fetch _ htalk => exact fetch_fails htalk
  | connect htalk =>
    rcases start_connecting_cases config with ⟨cause, hvalid, hstart⟩ | hstart
    · rw [hstart] at htalk
      obtain ⟨rfl, hended⟩ := htalk.of_ended
      cases hended
      exact ⟨.validateConfig, .config cause, .config hvalid, rfl⟩
    · rw [hstart] at htalk
      exact fetch_fails htalk.fetches

/-! ## Closing -/

theorem close_fails {s : Store} {talk : List Exchange} {p : Progress} {e : Error}
    (h : Converses s.close.2 talk p) (hfails : Fails p e) :
    ∃ step cause, Arises (.close s) talk step cause ∧ e = ⟨cause, some (.close, step)⟩ := by
  unfold close at h
  cases hsession : s.session with
  | none =>
    rw [hsession] at h
    obtain ⟨-, rfl⟩ := h.of_ended
    exact absurd hfails fails_done
  | some session =>
    rw [hsession] at h
    cases h with
    | rest => exact absurd hfails fails_running
    | exchange reply hrest =>
      cases reply with
      | ok answer =>
        obtain ⟨-, rfl⟩ := hrest.of_ended
        exact absurd hfails fails_done
      | error failure =>
        obtain ⟨rfl, rfl⟩ := hrest.of_ended
        cases fails_ended_iff.1 hfails
        exact ⟨.release, .chainQuery failure, .release failure, rfl⟩

/-! ## Steps and causes -/

theorem Unread.steps {reply : Except Node.Error (Option Bytes)} {step : Step} {cause : Cause}
    (h : Unread reply step cause) (mode : SubmissionMode) : step ∈ cause.steps mode := by
  cases h <;> simp [Cause.steps]

theorem Uncounted.steps {policy : AbsentAccount} {reply : Except Node.Error (Option Bytes)}
    {cause : Cause} (h : Uncounted policy reply cause) (mode : SubmissionMode) :
    Step.fetchNonce ∈ cause.steps mode := by
  cases h <;> simp [Cause.steps]

/-- What is wrong at a reply is noticed at one of the steps that there are for it. -/
theorem Fault.steps {task : Task} {reply : task.request.Reply} {step : Step} {cause : Cause}
    (h : Fault task reply step cause) {mode : SubmissionMode}
    (hmode : ∀ op kind x, task = .inclusion op kind x → mode = .inBlock) :
    step ∈ cause.steps mode := by
  cases h with
  | get hunread | set hunread | update hunread => exact hunread.steps mode
  | nonce huncounted => exact huncounted.steps mode
  | dispatch =>
    rw [hmode _ _ _ rfl]
    exact List.mem_singleton_self _
  | transform | sign | submission | inclusion | key => exact List.mem_cons_self
  | scan | release => simp [Cause.steps]

theorem Arises.steps {i : Invocation} {talk : List Exchange} {step : Step} {cause : Cause}
    (h : Arises i talk step cause) : step ∈ cause.steps i.submission := by
  cases h with
  | config | resolve | closed | address => exact List.mem_cons_self
  | fetch f e => cases f <;> simp [Fact.step, Cause.steps]
  | release e => simp [Cause.steps]
  | @reply s command before task reply step cause hreached hfault =>
    apply hfault.steps
    rintro op kind x rfl
    obtain ⟨session, first, -, hbegins, hreached⟩ := hreached.begun
    have hbelongs : Belongs ⟨s.signer, s.config, session⟩ command (.inclusion op kind x) :=
      hreached.belongs (p := .running first) (.begun hbegins)
    cases hbelongs with
    | begun hbegins => cases hbegins
    | inclusion hmode => exact hmode

/-! ## Every failure -/

/-- **Every failure names its operation and step.** Whatever a node answers to a connection, to a command
of a store or to its closing, and in whatever way its signer fails: if the caller is given an error, it
is one cause, wrapped once, under the operation that was called and the step at which the cause arose,
which is one of those that the cause can arise at. To wrap it again changes nothing. -/
theorem fails_named {i : Invocation} (haborts : i.Aborts) {talk : List Exchange} {e : Error}
    (h : i.Fails talk e) :
    ∃ step cause, Arises i talk step cause ∧ step ∈ cause.steps i.submission ∧
      e.wrapped = .op i.operation step (.bare cause) ∧
      ∀ wraps, (e.duringAll wraps).operation? = some i.operation ∧
        (e.duringAll wraps).step? = some step ∧ (e.duringAll wraps).wrapped.root = cause := by
  obtain ⟨step, cause, harises, rfl⟩ : ∃ step cause, Arises i talk step cause ∧
      e = ⟨cause, some (i.operation, step)⟩ := by
    cases i with
    | connect config => exact connect_fails h
    | run s command =>
      cases h with
      | run htalk hfails => exact run_fails haborts htalk hfails
    | close s =>
      cases h with
      | close htalk hfails => exact close_fails htalk hfails
  refine ⟨step, cause, harises, harises.steps, rfl, fun wraps => ?_⟩
  have hkept : (Error.duringAll ⟨cause, some (i.operation, step)⟩ wraps).wrapped =
      .op i.operation step (.bare cause) :=
    (Error.wrapped_duringAll _ wraps).trans (Wrapped.duringAll_op ..)
  rw [← Error.wrapped_operation?, ← Error.wrapped_step?, hkept]
  exact ⟨rfl, rfl, rfl⟩

open Ed25519 (neutralKey) in
/-- The record is read, and the caller leaves it as it is. -/
theorem fails_named_aborted :
    let o : Opened := ⟨.neutral neutralKey, {}, Ledger.Config.session {}⟩
    let s : Store := ⟨o.signer, o.config, some o.session⟩
    let keep : Transform := fun _ => .error ⟨.updateAborted "kept", none⟩
    let i : Invocation := .run s (.update [7] [1] keep)
    let address := o.session.keys.recordAddress [7] [1]
    let record : Record := ⟨[2], o.signer.account⟩
    let talk : List Exchange := [⟨.storage address none, .ok (some record.encode)⟩]
    let e : Error := ⟨.updateAborted "kept", some (.update, .transform)⟩
    i.Aborts ∧ i.Fails talk e ∧ ∃ step cause, Arises i talk step cause ∧
      e.wrapped = .op .update step (.bare cause) := by
  intro o s keep i address record talk e
  have haborts : i.Aborts := by
    rintro old e ⟨⟩
    exact ⟨_, rfl⟩
  have hstart : (Command.update [7] [1] keep).start s =
      .running (.update o [7] [1] keep address) := by
    have haddress : o.session.keys.deriveAddress [7] [1] = .ok address :=
      StorageKeys.deriveAddress_of_short (by decide) (by decide)
    have hopen : s.openFor .update = .ok o := rfl
    show update s [7] [1] keep = _
    simp only [update, hopen, andThen, Opened.address, haddress]
  have hfault : Fault (.update o [7] [1] keep address) (.ok (some record.encode)) .transform
      (.updateAborted "kept") := .transform (Record.decode_encode (by decide)) rfl
  have htalk : Converses ((Command.update [7] [1] keep).start s) talk
      ((Task.update o [7] [1] keep address).resume (.ok (some record.encode))) := by
    rw [hstart]
    exact .exchange _ (.rest _)
  have hfails : i.Fails talk e := .run htalk hfault.fails
  obtain ⟨step, cause, harises, -, hwrapped, -⟩ := fails_named haborts hfails
  exact ⟨haborts, hfails, step, cause, harises, hwrapped⟩

end MetaLedger.Store
