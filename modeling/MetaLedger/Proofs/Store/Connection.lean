import MetaLedger.Proofs.Call
import MetaLedger.Proofs.Store.Failing

/-!
# What a connection and its ledger agree on

A store learns the positions of the calls by looking their names up in the ledger's schema, and derives
the addresses from the names alone; the ledger takes both from its own configuration. Under the ledger's
layout the two agree if names and positions are told apart: the connection succeeds, signs for the
ledger's chain, reads where the ledger writes, and every call that it encodes is read as what it is
(`connection_agrees`). Under any other layout there may be no connection; but if there is one, the names
that it found are the ledger's, since each pallet of the schema has one storage item and only one of them
has calls (`names_eq_of_resolve`). So a store never looks for its records where no ledger puts any.
-/

namespace MetaLedger

/-! ## Names -/

theorem RuntimeSchema.ensureStorage_eq_ok_iff {s : RuntimeSchema} {pallet item : String} :
    s.ensureStorage pallet item = .ok () ↔ ∃ p, s.pallet? pallet = some p ∧ item ∈ p.storage := by
  unfold ensureStorage
  cases hpallet : s.pallet? pallet with
  | none => simp
  | some p =>
    by_cases hitem : item ∈ p.storage
    · simp [hitem]
    · simp [hitem]

theorem RuntimeSchema.callIndex_eq_ok {s : RuntimeSchema} {pallet call : String} {index : CallIndex}
    (h : s.callIndex pallet call = .ok index) :
    ∃ p c, s.pallet? pallet = some p ∧ c ∈ p.calls ∧ c.name = call ∧
      index = ⟨p.index, c.index⟩ := by
  unfold callIndex at h
  cases hpallet : s.pallet? pallet with
  | none =>
    simp only [hpallet] at h
    cases h
  | some p =>
    cases hcall : p.calls.find? (·.name == call) with
    | none =>
      simp only [hpallet, hcall] at h
      cases h
    | some c =>
      simp only [hpallet, hcall] at h
      cases h
      exact ⟨p, c, rfl, List.mem_of_find?_eq_some hcall, by simpa using List.find?_some hcall, rfl⟩

/-- What is found in the schema is one of the two pallets, and the one with calls is the module's. -/
theorem ModuleIndices.pallet?_cases {m : ModuleIndices} {metadata : Bytes} {layout : Layout}
    {name : String} {p : PalletSchema} (h : (m.schema metadata layout).pallet? name = some p) :
    name = layout.systemPallet ∧ p.storage = [layout.accountItem] ∧ p.calls = [] ∨
    name = layout.pallet ∧ p.storage = [layout.storageItem] := by
  unfold schema RuntimeSchema.pallet? at h
  by_cases hsystem : layout.systemPallet = name
  · simp only [hsystem, beq_self_eq_true, List.find?_cons_of_pos, Option.some.injEq] at h
    subst h
    exact .inl ⟨hsystem.symm, rfl, rfl⟩
  · rw [List.find?_cons_of_neg (by simpa using hsystem)] at h
    by_cases hmodule : layout.pallet = name
    · simp only [hmodule, beq_self_eq_true, List.find?_cons_of_pos, Option.some.injEq] at h
      subst h
      exact .inr ⟨hmodule.symm, rfl⟩
    · rw [List.find?_cons_of_neg (by simpa using hmodule), List.find?_nil] at h
      cases h

namespace Store

open Ledger (Rules Entries State)
open Connecting (Connects Fetches conclude)

namespace Session

theorem resolve_eq_ok {schema : RuntimeSchema} {chain : ChainBinding} {layout : Layout}
    {session : Session} (h : resolve schema chain layout = .ok session) :
    schema.ensureStorage layout.pallet layout.storageItem = .ok () ∧
      schema.ensureStorage layout.systemPallet layout.accountItem = .ok () ∧
      (∃ index, schema.callIndex layout.pallet layout.setCall = .ok index) ∧
      session.keys = StorageKeys.ofLayout layout := by
  unfold resolve at h
  simp only [bind, Except.bind, pure, Except.pure] at h
  cases hrecords : schema.ensureStorage layout.pallet layout.storageItem with
  | error failure => simp [hrecords] at h
  | ok =>
    cases haccounts : schema.ensureStorage layout.systemPallet layout.accountItem with
    | error failure => simp [hrecords, haccounts] at h
    | ok =>
      cases hset : schema.callIndex layout.pallet layout.setCall with
      | error failure => simp [hrecords, haccounts, hset] at h
      | ok setCall =>
        simp only [hrecords, haccounts, hset] at h
        split at h
        · cases h
        · split at h
          · cases h
          · cases h
            exact ⟨rfl, rfl, ⟨setCall, rfl⟩, rfl⟩

/-- If two different pallets of a layout are found in the schema of a ledger, with their items and a
call, they are the ledger's. -/
theorem names_eq_of_resolve {c : Ledger.Config} {chain : ChainBinding} {layout : Layout}
    {session : Session} (pallets : layout.pallet ≠ layout.systemPallet)
    (h : resolve (Rules.ofConfig c).schema chain layout = .ok session) :
    layout.pallet = c.layout.pallet ∧ layout.storageItem = c.layout.storageItem ∧
      layout.systemPallet = c.layout.systemPallet ∧ layout.accountItem = c.layout.accountItem := by
  have hschema : (Rules.ofConfig c).schema = c.indices.schema Rules.metadata c.layout := rfl
  obtain ⟨hrecords, haccounts, ⟨index, hset⟩, -⟩ := resolve_eq_ok h
  rw [hschema] at hrecords haccounts hset
  obtain ⟨p, hp, hitem⟩ := RuntimeSchema.ensureStorage_eq_ok_iff.1 hrecords
  obtain ⟨q, hq, hitem'⟩ := RuntimeSchema.ensureStorage_eq_ok_iff.1 haccounts
  obtain ⟨p', call, hp', hcall, -, -⟩ := RuntimeSchema.callIndex_eq_ok hset
  cases hp.symm.trans hp'
  rcases ModuleIndices.pallet?_cases hp with ⟨-, -, hnone⟩ | ⟨hname, hstorage⟩
  · -- The system's pallet has no calls.
    rw [hnone] at hcall
    cases hcall
  · rcases ModuleIndices.pallet?_cases hq with ⟨hname', hstorage', -⟩ | ⟨hname', -⟩
    · rw [hstorage, List.mem_singleton] at hitem
      rw [hstorage', List.mem_singleton] at hitem'
      exact ⟨hname, hitem, hname', hitem'⟩
    · exact absurd (hname.trans hname'.symm) pallets

theorem keys_eq_of_resolve {c : Ledger.Config} {chain : ChainBinding} {layout : Layout}
    {session : Session} (pallets : layout.pallet ≠ layout.systemPallet)
    (h : resolve (Rules.ofConfig c).schema chain layout = .ok session) :
    session.keys = (Rules.ofConfig c).keys := by
  obtain ⟨hpallet, hitem, hsystem, haccount⟩ := names_eq_of_resolve pallets h
  have hkeys : (Rules.ofConfig c).keys = StorageKeys.ofLayout c.layout := rfl
  rw [(resolve_eq_ok h).2.2.2, hkeys]
  unfold StorageKeys.ofLayout
  rw [hpallet, hitem, hsystem, haccount]

end Session

/-! ## Connecting to a ledger -/

/-- The reply is that of an open ledger, in some state. -/
def Exchange.ServedBy (r : Rules) (x : Exchange) : Prop :=
  ∃ s t : State, s.closed = false ∧ s.serve r x.request = (.reply x.reply, t)

section Served

variable {r : Rules}

/-- The facts of a chain are the same in every state. -/
theorem serve_fact {s t : State} (hopen : s.closed = false) (f : Connecting.Fact)
    {reply : f.request.Reply} (h : s.serve r f.request = (.reply reply, t)) :
    reply = match f with
      | .schema => .ok r.schema
      | .genesis => .ok r.genesis
      | .version => .ok r.version := by
  cases f <;>
  · unfold State.serve State.whileOpen at h
    simp only [hopen, Bool.false_eq_true, if_false] at h
    cases h
    rfl

/-- In whatever order a ledger's answers come, they make what its facts make. -/
theorem fetches_of_served {layout : Layout} {talk : List Exchange} {result : Except Error Session}
    (h : Fetches layout .none talk result) (hserved : ∀ x ∈ talk, x.ServedBy r) :
    result = conclude layout r.schema r.genesis r.version := by
  rcases h.start_cases with ⟨before, f, e, rfl, -⟩ |
    ⟨schema, genesis, version, rfl, hschema, hgenesis, hversion⟩
  · obtain ⟨s, t, hopen, hserve⟩ :=
      hserved _ (List.mem_append_right before (List.mem_singleton_self _))
    have hreply := serve_fact hopen f hserve
    cases f <;> cases hreply
  · obtain ⟨s, t, hopen, hserve⟩ := hserved _ hschema
    cases serve_fact hopen .schema hserve
    obtain ⟨s, t, hopen, hserve⟩ := hserved _ hgenesis
    cases serve_fact hopen .genesis hserve
    obtain ⟨s, t, hopen, hserve⟩ := hserved _ hversion
    cases serve_fact hopen .version hserve
    rfl

end Served

/-! ## Reading where the ledger writes -/

/-- What a command of an account can ask a node for: what is filed under the command's names, the
account, and to take a transaction. -/
inductive Asks (keys : StorageKeys) (account : AccountId) (command : Command) : Node.Request → Prop
  | record {address : Address} (hfiled : command.filedAt keys = .ok address) :
      Asks keys account command (.storage address none)
  | account : Asks keys account command (.storage (keys.accountAddress account) none)
  | keys {start : Address} (hfiled : command.filedAt keys = .ok start) (count : UInt32)
      (after : Option Address) : Asks keys account command (.keys start count after none)
  | submit (x : Extrinsic) : Asks keys account command (.submit x)
  | submitAndWatch (x : Extrinsic) : Asks keys account command (.submitAndWatch x)

section Asking

variable {o : Opened} {command : Command}

theorem Belongs.asks {task : Task} (h : Belongs o command task) :
    Asks o.session.keys o.signer.account command task.request := by
  cases h with
  | begun hbegins =>
    cases hbegins with
    | get haddress | set haddress | update haddress => exact .record haddress
    | delete => exact .account
    | @listKeys ns start hstart =>
      have hfiled : (Command.listKeys ns).filedAt o.session.keys = .ok start := hstart
      exact .keys hfiled _ _
  | nonce => exact .account
  | submission _ x => exact .submit x
  | inclusion _ _ x => exact .submitAndWatch x
  | page _ hstart after => exact .keys hstart _ after

theorem Converses.asks {p q : Progress} {talk : List Exchange} (h : Converses p talk q)
    (hp : Goes (Belongs o command) (fun _ => True) p) :
    ∀ x ∈ talk, Asks o.session.keys o.signer.account command x.request := by
  induction h with
  | rest => exact nofun
  | exchange reply _ ih =>
    intro x hx
    rcases List.mem_cons.1 hx with rfl | hx
    · exact Belongs.asks hp
    · exact ih (Belongs.resume hp reply) x hx

theorem start_asks {s : Store} {session : Session} (hsession : s.session = some session)
    {talk : List Exchange} {p : Progress} (h : Converses (command.start s) talk p) :
    ∀ x ∈ talk, Asks session.keys s.signer.account command x.request := by
  rcases start_cases s command with ⟨hclosed, -⟩ | ⟨failure, hstart⟩ |
    ⟨found, task, hfound, hbegins, hstart⟩
  · rw [hsession] at hclosed
    cases hclosed
  · rw [hstart] at h
    rw [h.of_ended.1]
    exact nofun
  · cases hsession.symm.trans hfound
    rw [hstart] at h
    have hp : Goes (Belongs ⟨s.signer, s.config, session⟩ command) (fun _ => True)
        (.running task) := Belongs.begun hbegins
    exact h.asks hp

end Asking

/-- A call that is not refused changes the entries at the address of its names, and nowhere else. -/
theorem dispatch_writes {r : Rules} {signer : AccountId} {call : Call} {e changed : Entries}
    {event : Ledger.Event} (h : r.dispatch signer call e = .ok (changed, event)) :
    ∃ address, r.keys.deriveAddress call.ns call.key = .ok address ∧
      (changed = e.erase address ∨ ∃ record : Record, changed = e.insert address record.encode) := by
  have hcases := Rules.dispatch_cases h
  unfold Rules.dispatch at h
  cases haddress : r.keys.deriveAddress call.ns call.key with
  | error failure =>
    simp only [haddress] at h
    cases h
  | ok address =>
    obtain rfl := StorageKeys.deriveAddress_eq_recordAddress haddress
    refine ⟨_, rfl, ?_⟩
    rcases hcases with ⟨data, -, -, hchanged, -⟩ | ⟨record, -, -, -, hchanged, -⟩ |
      ⟨record, data, -, -, -, hchanged, -⟩
    · exact .inr ⟨_, hchanged⟩
    · exact .inl hchanged
    · exact .inr ⟨_, hchanged⟩

/-- A store of the session reads where the ledger writes. -/
structure Agrees (r : Rules) (session : Session) : Prop where
  keys : session.keys = r.keys
  /-- All that a store asks for is filed under the ledger's addresses. -/
  asks : ∀ {s : Store}, s.session = some session → ∀ {command : Command} {talk : List Exchange}
    {p : Progress}, Converses (command.start s) talk p →
      ∀ x ∈ talk, Asks r.keys s.signer.account command x.request
  /-- A call writes at the address that a store derives from the call's names. -/
  records : ∀ {signer : AccountId} {call : Call} {e changed : Entries} {event : Ledger.Event},
    r.dispatch signer call e = .ok (changed, event) →
      ∃ address, session.keys.deriveAddress call.ns call.key = .ok address ∧
        (changed = e.erase address ∨ ∃ record : Record, changed = e.insert address record.encode)
  /-- A transaction is counted at the address that a store derives from its signer. -/
  accounts : ∀ (account : AccountId) (e : Entries), ∃ info : AccountInfo,
    r.bumpNonce account e = e.insert (session.keys.accountAddress account) info.encode

theorem agrees_of_keys {r : Rules} {session : Session} (h : session.keys = r.keys) :
    Agrees r session where
  keys := h
  asks hsession _ _ _ htalk := by
    rw [← h]
    exact start_asks hsession htalk
  records hdispatch := by
    rw [h]
    exact dispatch_writes hdispatch
  accounts account e := by
    rw [h]
    exact ⟨_, rfl⟩

/-! ## Agreement -/

theorem conclude_eq_ok {layout : Layout} {schema : RuntimeSchema} {genesis : BlockHash}
    {version : RuntimeVersion} {session : Session}
    (h : conclude layout schema genesis version = .ok session) :
    Session.resolve schema ⟨genesis, version⟩ layout = .ok session := by
  have hparts : Session.ofParts schema ⟨genesis, version⟩ layout = .ok session := mapError_eq_ok h
  unfold Session.ofParts at hparts
  split at hparts
  · next hresolve =>
    cases hparts
    exact hresolve
  · cases hparts

/-- Under the ledger's layout, names that are told apart are all found. -/
theorem conclude_eq_session {c : Ledger.Config} (distinct : c.layout.Distinct) :
    conclude c.layout (Rules.ofConfig c).schema (Rules.ofConfig c).genesis
      (Rules.ofConfig c).version = .ok c.session := by
  unfold conclude
  rw [Ledger.Config.ofParts_eq distinct]
  rfl

/-- What a ledger of a configuration answers to a connection under the ledger's own layout: it succeeds
in whatever order the answers come, signs for the ledger's chain, reads where the ledger writes, and
encodes calls so that the ledger reads them. -/
structure Connected (c : Ledger.Config) : Prop where
  unique : ∀ {talk : List Exchange} {result : Except Error Session},
    Fetches c.layout .none talk result → (∀ x ∈ talk, x.ServedBy (Rules.ofConfig c)) →
      result = .ok c.session
  succeeds : ∀ {first second third : State}, first.closed = false → second.closed = false →
    third.closed = false → ∃ schema genesis version,
      first.serve (Rules.ofConfig c) .runtimeSchema = (.reply schema, first) ∧
      second.serve (Rules.ofConfig c) .genesisHash = (.reply genesis, second) ∧
      third.serve (Rules.ofConfig c) .runtimeVersion = (.reply version, third) ∧
      Connects c.layout (.running .schema)
        [⟨.runtimeSchema, schema⟩, ⟨.genesisHash, genesis⟩, ⟨.runtimeVersion, version⟩]
        (.ended (.ok c.session))
  chain : c.session.chain = (Rules.ofConfig c).chain
  agrees : Agrees (Rules.ofConfig c) c.session
  calls : ∀ call : Call, call.Short →
    (Rules.ofConfig c).call? (c.session.encodeCall call) = some call

theorem connected_of_distinct {c : Ledger.Config} (names : c.layout.Distinct)
    (positions : c.indices.Distinct) : Connected c where
  unique h hserved := (fetches_of_served h hserved).trans (conclude_eq_session names)
  succeeds {first second third} hfirst hsecond hthird := by
    refine ⟨.ok (Rules.ofConfig c).schema, .ok (Rules.ofConfig c).genesis,
      .ok (Rules.ofConfig c).version, ?_, ?_, ?_, ?_⟩
    · simp [State.serve, State.whileOpen, hfirst]
    · simp [State.serve, State.whileOpen, hsecond]
    · simp [State.serve, State.whileOpen, hthird]
    · refine .exchange _ (.exchange _ (.exchange _ ?_))
      show Connects c.layout (.ended (conclude c.layout _ _ _)) [] _
      rw [conclude_eq_session names]
      exact .rest _
  chain := rfl
  agrees := agrees_of_keys rfl
  calls call hshort := by
    unfold Session.encodeCall
    rw [c.session_callIndex]
    exact Rules.call?_encodeAt positions hshort

/-- **A store and its ledger agree.** If the names of a ledger's pallets and calls and the positions of
its calls are told apart, a connection under the ledger's layout is all that it should be. And whatever
the layout is under which a connection to a ledger succeeds, as long as it names two pallets, the store
reads where the ledger writes. -/
theorem connection_agrees (c : Ledger.Config) :
    (c.layout.Distinct → c.indices.Distinct → Connected c) ∧
      ∀ layout : Layout, layout.pallet ≠ layout.systemPallet → ∀ talk session,
        Fetches layout .none talk (.ok session) →
        (∀ x ∈ talk, x.ServedBy (Rules.ofConfig c)) → Agrees (Rules.ofConfig c) session := by
  refine ⟨connected_of_distinct, fun layout pallets talk session hfetches hserved => ?_⟩
  have hresult := fetches_of_served hfetches hserved
  exact agrees_of_keys (Session.keys_eq_of_resolve pallets (conclude_eq_ok hresult.symm))

/-- The usual names at the usual places, and another name for a call. -/
theorem connection_agrees_renamed :
    let c : Ledger.Config := {}
    let r := Rules.ofConfig c
    let layout : Layout := { updateCall := "delete_metadata" }
    let session : Session := { c.session with layout, updateCall := c.indices.callIndex .delete }
    let talk : List Exchange := [⟨.runtimeVersion, .ok r.version⟩, ⟨.runtimeSchema, .ok r.schema⟩,
      ⟨.genesisHash, .ok r.genesis⟩]
    Connected c ∧ Fetches layout .none talk (.ok session) ∧ Agrees r session := by
  intro c r layout session talk
  obtain ⟨hconnected, hagrees⟩ := connection_agrees c
  have hresult : conclude layout r.schema r.genesis r.version = .ok session := rfl
  have hfetches : Fetches layout .none talk (.ok session) := by
    rw [← hresult]
    exact .answered .version rfl r.version (.answered .schema rfl r.schema
      (.answered .genesis rfl r.genesis (.concluded rfl rfl rfl)))
  have hserved : ∀ x ∈ talk, x.ServedBy r := by
    simp only [talk, List.forall_mem_cons]
    exact ⟨⟨State.initial r, _, rfl, rfl⟩, ⟨State.initial r, _, rfl, rfl⟩,
      ⟨State.initial r, _, rfl, rfl⟩, nofun⟩
  exact ⟨hconnected ⟨by decide, by decide⟩ (by decide), hfetches,
    hagrees layout (by decide) talk session hfetches hserved⟩

end Store

end MetaLedger
