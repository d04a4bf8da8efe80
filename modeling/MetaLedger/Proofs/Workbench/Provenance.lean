import MetaLedger.Proofs.Store.Supply
import MetaLedger.Proofs.Workbench.Drawing

/-!
# No value is invented

Stores that write to a ledger at the same time may undo each other's changes: an update reads a record and
writes it later, whatever has become of it. But whatever is stored, somebody meant it to be: it was handed
to a call that sets it, or it is what the transform of an update made of a value that was stored when the
update read it (`after_sourced`).

Where data come from is followed from the call that sets an activity off (`Started`), through its reply and
its signed transaction (`Supplies`), into the pool and a block, by `Stocked`. None of this depends on who
signs, on nonces, or on what else is in the pool.
-/

namespace MetaLedger.Workbench

open Ledger (Rules State Op)

/-- Nothing is handed in but by stores, and these know the names of the ledger. -/
def Act.OfStores (c : Ledger.Config) : Act → Prop
  | .connect _ config => config.layout = c.layout
  | .direct (.submit ..) => False
  | _ => True

/-! ## Where data come from -/

/-- One of the acts has started the command, as the activity of the number. -/
def Started (c : Ledger.Config) (acts : List Act) (number : Nat) (command : Store.Command) : Prop :=
  ∃ before store later, acts = before ++ .command store command :: later ∧
    ((after c before).act (.command store command)).1 = some (.pending number)

/-- The activity is an update that reads its record with its next move, and the record is there. -/
structure Reads (c : Ledger.Config) (acts : List Act) (number : Nat) (ns key : Bytes)
    (transform : Store.Transform) (record : Record) : Prop where
  task : ∃ p o address, (after c acts).found number = some p ∧ p.isFree = true ∧
    p.activity = .operation .update (.update o ns key transform address)
  record : ∃ address, (StorageKeys.ofLayout c.layout).deriveAddress ns key = .ok address ∧
    Rules.record? (after c acts).ledger.best address = .ok (some record)

/-- How data may come to be stored under a namespace and key. -/
inductive Sourced (c : Ledger.Config) (acts : List Act) (ns key data : Bytes) : Prop where
  /-- A call was to set just these. -/
  | set {number : Nat} : Started c acts number (.set ns key data) → Sourced c acts ns key data
  /-- A call was to change what is there, and this is what it made of the data that it read. -/
  | update {before later : List Act} {number : Nat} {transform : Store.Transform} {record : Record} :
      acts = before ++ .move number :: later → Started c before number (.update ns key transform) →
      Reads c before number ns key transform record → transform record.data = .ok data →
      Sourced c acts ns key data

section Later

variable {c : Ledger.Config} {acts : List Act} {number : Nat}

theorem Started.later {command : Store.Command} (h : Started c acts number command) (a : Act) :
    Started c (acts ++ [a]) number command := by
  obtain ⟨before, store, later, rfl, htold⟩ := h
  exact ⟨before, store, later ++ [a], by simp, htold⟩

theorem Sourced.later {ns key data : Bytes} (h : Sourced c acts ns key data) (a : Act) :
    Sourced c (acts ++ [a]) ns key data := by
  cases h with
  | set hstarted => exact .set (hstarted.later a)
  | @update before later number transform record hacts hstarted hreads htransform =>
    have hlater : acts ++ [a] = before ++ .move number :: (later ++ [a]) := by
      rw [hacts, List.append_assoc, List.cons_append]
    exact .update hlater hstarted hreads htransform

end Later

/-! ## What is under way -/

/-- The call has short names, and the data that it brings have a source. -/
structure Supplied (c : Ledger.Config) (acts : List Act) (call : Call) : Prop where
  names : call.ns.length < UInt32.size ∧ call.key.length < UInt32.size
  brings : call.Brings (Sourced c acts)

/-- The task is one of a store with the session of the ledger. What it was started for can still become
of it, or it has a supplied call already. -/
def Supplies (c : Ledger.Config) (acts : List Act) (number : Nat) (op : Store.Operation) :
    Store.Task → Prop
  | .get .. | .page .. | .release => True
  | .set o ns key data _ =>
    o.session = c.session ∧ ns.length < UInt32.size ∧ key.length < UInt32.size ∧
      Started c acts number (.set ns key data)
  | .update o ns key transform address =>
    o.session = c.session ∧ op = .update ∧
      (StorageKeys.ofLayout c.layout).deriveAddress ns key = .ok address ∧
      Started c acts number (.update ns key transform)
  | .nonce o _ call => o.session = c.session ∧ Supplied c acts call
  | .submission _ x | .inclusion _ _ x => ∃ call, x.call = c.session.encodeCall call ∧
      Supplied c acts call

/-- The activity is one of a store that knows the names of the ledger, and has a source for its data. -/
def Supplying (c : Ledger.Config) (acts : List Act) (number : Nat) : Activity → Prop
  | .connection _ config step => config.layout = c.layout ∧ Learned (Rules.ofConfig c) step
  | .operation op task => Supplies c acts number op task
  | _ => False

/-- The store has the session of the ledger, if any. -/
def Knows (c : Ledger.Config) (s : Store) : Prop :=
  ∀ session, s.session = some session → session = c.session

/-- Only stores that know the ledger come of connections. -/
def Acquaints (c : Ledger.Config) : Outcome → Prop
  | .connected (.ok s) => Knows c s
  | _ => True

section Keeping

variable {c : Ledger.Config} {acts : List Act} {number : Nat}

theorem Supplied.later {call : Call} (h : Supplied c acts call) (a : Act) :
    Supplied c (acts ++ [a]) call :=
  ⟨h.names, h.brings.mono fun _ _ _ hsourced => hsourced.later a⟩

theorem Supplying.later {activity : Activity} (h : Supplying c acts number activity) (a : Act) :
    Supplying c (acts ++ [a]) number activity := by
  cases activity with
  | operation op task =>
    cases task with
    | set o ns key data address =>
      obtain ⟨hsession, hns, hkey, hstarted⟩ := h
      exact ⟨hsession, hns, hkey, hstarted.later a⟩
    | update o ns key transform address =>
      obtain ⟨hsession, hop, haddress, hstarted⟩ := h
      exact ⟨hsession, hop, haddress, hstarted.later a⟩
    | nonce o op' call => exact ⟨h.1, h.2.later a⟩
    | submission op' x =>
      obtain ⟨call, hcall, hsupplied⟩ := h
      exact ⟨call, hcall, hsupplied.later a⟩
    | inclusion op' kind x =>
      obtain ⟨call, hcall, hsupplied⟩ := h
      exact ⟨call, hcall, hsupplied.later a⟩
    | _ => trivial
  | _ => exact h

/-! ## Setting off and going on -/

theorem supplying_start {store : Nat} {client : Client} {command : Store.Command}
    (hclient : (after c acts).clients[store]? = some client) (hknows : Knows c client.store) :
    Comes (Supplying c (acts ++ [.command store command]) (after c acts).nextPending) (Acquaints c)
      (.ofTask command.operation (command.start client.store)) := by
  have hact := act_command hclient command
  rcases Store.start_cases client.store command with ⟨-, hstart⟩ | ⟨failure, hstart⟩ |
    ⟨session, task, hsession, hbegins, hstart⟩
  · rw [hstart]
    trivial
  · rw [hstart]
    trivial
  · rw [hstart] at hact ⊢
    have hstarted : Started c (acts ++ [.command store command]) (after c acts).nextPending command := by
      refine ⟨acts, store, [], rfl, ?_⟩
      rw [hact]
      rfl
    obtain rfl := hknows session hsession
    cases hbegins with
    | get => trivial
    | set haddress =>
      obtain ⟨hns, hkey, -⟩ := StorageKeys.deriveAddress_eq_ok_iff.1 haddress
      exact ⟨rfl, hns, hkey, hstarted⟩
    | delete haddress =>
      obtain ⟨hns, hkey, -⟩ := StorageKeys.deriveAddress_eq_ok_iff.1 haddress
      exact ⟨rfl, ⟨hns, hkey⟩, trivial⟩
    | update haddress => exact ⟨rfl, rfl, haddress, hstarted⟩
    | listKeys => trivial

/-- What is read as a record's data are the data of the record that is there. -/
theorem record?_of_dataOfReply {s next : State} {address : Address} {op : Store.Operation}
    {value : Except Node.Error (Option Bytes)} {data : Bytes}
    (hserve : s.serve (Rules.ofConfig c) (.storage address none) = (.reply value, next))
    (hread : Store.dataOfReply op value = .ok data) :
    ∃ record, Rules.record? s.best address = .ok (some record) ∧ record.data = data := by
  obtain ⟨raw, record, rfl, hdecode, hdata⟩ := Store.dataOfReply_eq_ok hread
  refine ⟨record, ?_, hdata⟩
  rcases Store.reply_of_storage hserve with hvalue | hvalue
  · cases hvalue
  · unfold Rules.record?
    rw [← Except.ok.inj hvalue]
    simp only [hdecode]

theorem supplies_resume {p : Pending} {op : Store.Operation} {task : Store.Task}
    {value : task.request.Reply} {next : State} (hfound : (after c acts).found number = some p)
    (hfree : p.isFree = true) (htask : p.activity = .operation op task)
    (h : Supplies c acts number op task)
    (hserve : (after c acts).ledger.serve (Rules.ofConfig c) task.request = (.reply value, next)) :
    Store.Goes (Supplies c (acts ++ [.move number]) number op) (fun _ => True) (task.resume value) := by
  cases task with
  | get o address => exact Store.goes_andThen (fun _ _ => trivial) fun _ _ => trivial
  | set o ns key data address =>
    obtain ⟨hsession, hns, hkey, hstarted⟩ := h
    have hsourced : Sourced c (acts ++ [.move number]) ns key data := .set (hstarted.later _)
    refine Store.goes_andThen (fun _ _ => trivial) fun isThere _ => ?_
    -- The call inserts or replaces. Either way it brings the data that were to be set.
    cases isThere with
    | true => exact ⟨hsession, ⟨hns, hkey⟩, hsourced⟩
    | false => exact ⟨hsession, ⟨hns, hkey⟩, hsourced⟩
  | update o ns key transform address =>
    obtain ⟨hsession, rfl, haddress, hstarted⟩ := h
    refine Store.goes_andThen (fun _ _ => trivial) fun old hold => ?_
    obtain ⟨record, hrecord, rfl⟩ := record?_of_dataOfReply hserve hold
    refine Store.goes_andThen (fun _ _ => trivial) fun data hdata => ?_
    have hreads : Reads c acts number ns key transform record :=
      ⟨⟨p, o, address, hfound, hfree, htask⟩, address, haddress, hrecord⟩
    obtain ⟨hns, hkey, -⟩ := StorageKeys.deriveAddress_eq_ok_iff.1 haddress
    exact ⟨hsession, ⟨hns, hkey⟩, .update rfl hstarted hreads (Store.mapError_eq_ok hdata)⟩
  | nonce o op' call =>
    obtain ⟨hsession, hsupplied⟩ := h
    refine Store.goes_andThen (fun _ _ => trivial) fun n _ => ?_
    refine Store.goes_andThen (fun _ _ => trivial) fun x hx => ?_
    obtain ⟨signature, -, rfl⟩ :=
      Signer.extrinsic_eq_ok (Store.Opened.sign_eq_ok (Store.mapError_eq_ok hx))
    rw [hsession]
    unfold Store.Task.submit
    split
    · exact ⟨call, rfl, hsupplied.later _⟩
    · exact ⟨call, rfl, hsupplied.later _⟩
  | submission op' x => exact Store.goes_andThen (fun _ _ => trivial) fun _ _ => trivial
  | inclusion op' kind x =>
    refine Store.goes_andThen (fun _ _ => trivial) fun _ _ => ?_
    exact Store.goes_andThen (fun _ _ => trivial) fun _ _ => trivial
  | page o start after delivered =>
    cases value with
    | error failure => trivial
    | ok addresses =>
      simp only [Store.Task.resume]
      split
      · trivial
      · split
        · trivial
        · trivial
  | release => cases value <;> trivial

theorem supplying_told {a : Activity} {receipt : Except Node.Error Receipt} {value : a.request.Reply}
    (hreply : a.request.replyOfReceipt? receipt = some value) :
    Comes (Supplying c acts number) (Acquaints c) (a.resume value) := by
  obtain ⟨outcome, hended, hconnects⟩ := ended_of_receipt hreply
  rw [hended]
  cases outcome with
  | connected result => exact absurd rfl (hconnects result)
  | _ => trivial

theorem supplying_connection
    (calls : [c.layout.setCall, c.layout.deleteCall, c.layout.updateCall].Nodup) {signer : Signer}
    {config : Store.Config} {step : Store.Connecting} {value : step.request.Reply} {s next : State}
    (h : Supplying c acts number (.connection signer config step))
    (hserve : s.serve (Rules.ofConfig c) step.request = (.reply value, next)) (a : Act) :
    Comes (Supplying c (acts ++ [a]) number) (Acquaints c)
      (.ofConnecting signer config (step.resume config.layout value)) := by
  obtain ⟨hconfig, hlearned⟩ := h
  rw [hconfig]
  rcases hlearned.next calls hserve with ⟨following, hnext, hlearned⟩ | ⟨result, hended, hsession⟩
  · rw [hnext]
    exact ⟨hconfig, hlearned⟩
  · rw [hended]
    cases result with
    | error failure => trivial
    | ok session =>
      rintro _ ⟨⟩
      exact hsession session rfl

theorem supplying_invariant
    (calls : [c.layout.setCall, c.layout.deleteCall, c.layout.updateCall].Nodup) :
    Invariant c (Act.OfStores c) (fun _ => Knows c) (Supplying c) (fun _ => Acquaints c) where
  connect {acts signer config} hconfig := by
    unfold Activity.connect Store.Connecting.start
    split
    · exact ⟨hconfig, trivial⟩
    · trivial
  command hclient _ hknows := supplying_start hclient hknows
  close {acts store s} _ hknows := by
    unfold Store.close
    split
    · nofun
    · exact hknows
  release {acts store s} _ _ := by
    unfold Store.close
    split
    · trivial
    · trivial
  reply {acts number p value next} hfound hfree h hserve := by
    obtain ⟨activity, front, hold⟩ := p
    cases activity with
    | connection signer config step => exact supplying_connection calls h hserve _
    | operation op task =>
      exact comes_ofTask (supplies_resume hfound hfree rfl h hserve) (fun _ h => h)
        fun _ _ _ => trivial
    | _ => exact h.elim
  told _ _ hreply := supplying_told hreply
  stay _ _ h := h.later _
  other _ _ h := h.later _
  keep _ hknows := hknows
  connected hknows := hknows

/-- Whatever is handed in in an act has a source for its data. -/
theorem Supplying.brings (indices : c.indices.Distinct) {activity : Activity}
    (h : Supplying c acts number activity) {x : Extrinsic} {watched : Bool}
    (hop : activity.request.op? = some (.submit x watched)) {found : Call}
    (hfound : (Rules.ofConfig c).call? x.call = some found) : found.Brings (Sourced c acts) := by
  have hsupplied : ∃ call, x.call = c.session.encodeCall call ∧ Supplied c acts call := by
    cases activity with
    | connection signer config step => cases step <;> cases hop
    | operation op task =>
      cases task with
      | submission op' y =>
        cases hop
        exact h
      | inclusion op' kind y =>
        cases hop
        exact h
      | _ => cases hop
    | _ => exact h.elim
  obtain ⟨call, hcall, hsupplied⟩ := hsupplied
  unfold Store.Session.encodeCall at hcall
  rw [c.session_callIndex] at hcall
  rw [hcall] at hfound
  obtain rfl := Rules.eq_of_call?_encodeAt (r := Rules.ofConfig c) indices hsupplied.names.1
    hsupplied.names.2 hfound
  exact hsupplied.brings

end Keeping

/-! ## What is stored -/

section Stored

variable {c : Ledger.Config} (separate : (StorageKeys.ofLayout c.layout).Separate)
  (indices : c.indices.Distinct)
  (calls : [c.layout.setCall, c.layout.deleteCall, c.layout.updateCall].Nodup) {acts : List Act}
  (hstores : ∀ a ∈ acts, a.OfStores c)

include indices calls hstores in
/-- Whatever an act hands in has a source for its data. -/
theorem brings_of_act {a : Act} (ha : a.OfStores c) {x : Extrinsic} {watched : Bool}
    (hop : (after c acts).op? a = some (.submit x watched)) {found : Call}
    (hfound : (Rules.ofConfig c).call? x.call = some found) : found.Brings (Sourced c acts) := by
  cases a with
  | direct op =>
    cases hop
    exact ha.elim
  | move number =>
    obtain ⟨p, hp, hrequest⟩ := Option.bind_eq_some_iff.1 hop
    split at hrequest
    · have hsupplying := ((supplying_invariant calls).after hstores).pending _ (mem_of_found hp)
      exact hsupplying.brings indices hrequest hfound
    · cases hrequest
  | _ => cases hop

include separate indices calls hstores in
theorem stocked_after : Store.Stocked (Rules.ofConfig c) (Sourced c acts) (after c acts).ledger := by
  induction acts using List.reverseRec with
  | nil => exact .initial _ _
  | append_singleton acts a ih =>
    have hbefore : ∀ b ∈ acts, b.OfStores c := fun b hb => hstores b (List.mem_append_left _ hb)
    have ha : a.OfStores c := hstores a (List.mem_append_right _ (List.mem_singleton_self a))
    have hnow : Store.Stocked (Rules.ofConfig c) (Sourced c (acts ++ [a])) (after c acts).ledger :=
      (ih hbefore).mono fun _ _ _ hsourced => hsourced.later a
    rw [ledger_concat]
    cases hop : (after c acts).op? a with
    | none => exact hnow
    | some op =>
      refine hnow.step separate ?_
      rintro x watched found rfl hfound
      refine (brings_of_act indices calls hbefore ha hop hfound).mono ?_
      exact fun _ _ _ hsourced => hsourced.later a

end Stored

/-- **Whatever is stored was meant to be stored there**, by a call that sets it or by an update's transform
of a record that was stored there before. -/
theorem after_sourced (c : Ledger.Config) (separate : (StorageKeys.ofLayout c.layout).Separate)
    (indices : c.indices.Distinct)
    (calls : [c.layout.setCall, c.layout.deleteCall, c.layout.updateCall].Nodup) (acts : List Act)
    (hstores : ∀ a ∈ acts, a.OfStores c) {ns key : Bytes} {address : Address} {value : Bytes}
    (haddress : (StorageKeys.ofLayout c.layout).deriveAddress ns key = .ok address)
    (hvalue : (after c acts).ledger.best.get? address = some value) :
    ∃ record, Record.decode value = .ok record ∧ Sourced c acts ns key record.data :=
  (stocked_after separate indices calls hstores).record haddress hvalue

open Ed25519 (neutralKey) in
/-- A store is connected, writes a record and changes it. -/
def Act.revision : List Act :=
  [.connect (.neutral neutralKey) {}, .move 0, .move 0, .move 0,
    .command 0 (.set [7] [1] [2]), .move 1, .move 1, .move 1,
    .command 0 (.update [7] [1] fun data => .ok (data ++ [9])), .move 2, .move 2, .move 2]

theorem after_sourced_revision :
    let c : Ledger.Config := {}
    ∃ address value record, (StorageKeys.ofLayout c.layout).deriveAddress [7] [1] = .ok address ∧
      (after c Act.revision).ledger.best.get? address = some value ∧
      Record.decode value = .ok record ∧ record.data = [2, 9] ∧
      Sourced c Act.revision [7] [1] record.data := by
  intro c
  have separate : (StorageKeys.ofLayout c.layout).Separate := by decide +kernel
  have indices : c.indices.Distinct := by decide
  have calls : [c.layout.setCall, c.layout.deleteCall, c.layout.updateCall].Nodup := by decide
  have hstores : ∀ a ∈ Act.revision, a.OfStores c := by
    simp only [Act.revision, List.forall_mem_cons, List.not_mem_nil, false_imp_iff, implies_true,
      and_true]
    exact ⟨rfl, trivial, trivial, trivial, trivial, trivial, trivial, trivial, trivial, trivial,
      trivial, trivial⟩
  let record : Record := ⟨[2, 9], ⟨Ed25519.neutralKey⟩⟩
  let address : Address := (StorageKeys.ofLayout c.layout).recordAddress [7] [1]
  have haddress : (StorageKeys.ofLayout c.layout).deriveAddress [7] [1] = .ok address :=
    StorageKeys.deriveAddress_of_short (by decide) (by decide)
  have hvalue : (after c Act.revision).ledger.best.get? address = some record.encode := by
    decide +kernel
  have hrecord : Record.decode record.encode = .ok record := Record.decode_encode (by decide)
  obtain ⟨found, hfound, hsourced⟩ :=
    after_sourced c separate indices calls Act.revision hstores haddress hvalue
  cases hrecord.symm.trans hfound
  exact ⟨address, record.encode, record, haddress, hvalue, hrecord, rfl, hsourced⟩

end MetaLedger.Workbench
