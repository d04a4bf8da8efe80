import Mathlib.Data.List.Nodup
import MetaLedger.Proofs.Ledger.Contention
import MetaLedger.Proofs.Workbench.Decoding

/-!
# Nonces that were read

A write reads the nonce of its account, signs its call for it and hands it in, and between the three
others may do the same. So whatever a store hands in carries a nonce that was read for it, and the
account's nonce has not fallen since (`Drawn`). That is kept up by all acts (`minds_invariant`), as long
as stores sign for their own accounts and know the names of the ledger, and nobody closes it
(`Act.Races`).
-/

namespace MetaLedger

/-- What the signer signs holds for its account. It need not sign everything. -/
def Signer.Truthful (s : Signer) : Prop :=
  ∀ payload signature, s.sign payload = .ok signature →
    Ed25519.verify s.account.raw payload signature = .valid

theorem Signer.Truthful.extrinsic {s : Signer} (h : s.Truthful) {chain : ChainBinding} {nonce : Nonce}
    {call : EncodedCall} {x : Extrinsic} (hsign : s.extrinsic chain nonce call = .ok x) :
    x.signer = s.account ∧ x.nonce = nonce ∧ x.call = call ∧ x.verify chain = .ok () := by
  obtain ⟨signature, hsignature, rfl⟩ := Signer.extrinsic_eq_ok hsign
  refine ⟨rfl, rfl, rfl, ?_⟩
  unfold Extrinsic.verify
  simp only [h _ _ hsignature]

namespace Store

open Ledger (Rules State)

/-- An open store with the session of the ledger. -/
structure Joined (c : Ledger.Config) (o : Opened) : Prop where
  session : o.session = c.session
  truthful : o.signer.Truthful

/-- What is taken for the nonce of an account is its nonce. -/
theorem Holds.nonceFor_ok {r : Rules} {s : State} {m : Contents} (h : Holds r s.best m) {o : Opened}
    {op : Operation} {a : AccountId} {n : Nonce}
    (hread : o.nonceFor op (.ok (s.best.get? (r.keys.accountAddress a))) = .ok n) :
    n = r.nonce s.best a := by
  unfold Opened.nonceFor nonceOfReply at hread
  rw [h.accounts] at hread
  unfold Rules.nonce
  cases hinfo : r.accountInfo? s.best a with
  | none =>
    simp only [hinfo, Option.map_none] at hread
    split at hread
    · cases hread
      rfl
    · cases hread
  | some info =>
    simp only [hinfo, Option.map_some, AccountInfo.decodeNonce_encode] at hread
    cases hread
    rfl

namespace Joined

variable {c : Ledger.Config} {o : Opened} (h : Joined c o)

include h

/-- The nonce that is read for a write is that of the store's account. -/
theorem nonceFor_ok {s next : State} {m : Contents} (hholds : Holds (Rules.ofConfig c) s.best m)
    {op : Operation} {value : Except Node.Error (Option Bytes)} {n : Nonce}
    (hserve : s.serve (Rules.ofConfig c) (nonceRequest o.session o.signer.account) =
      (.reply value, next)) (hread : o.nonceFor op value = .ok n) :
    n = (Rules.ofConfig c).nonce s.best o.signer.account := by
  have hkeys : o.session.keys = (Rules.ofConfig c).keys := by
    rw [h.session]
    rfl
  unfold nonceRequest at hserve
  rw [hkeys] at hserve
  rcases reply_of_storage hserve with rfl | rfl
  · cases hread
  · exact hholds.nonceFor_ok hread

/-- What the store signs is signed by its account, for the ledger. -/
theorem sign_ok {n : Nonce} {call : Call} {x : Extrinsic} (hsign : o.sign n call = .ok x) :
    x.signer = o.signer.account ∧ x.nonce = n ∧ x.call = c.session.encodeCall call ∧
      x.verify (Rules.ofConfig c).chain = .ok () := by
  have hsigned := Opened.sign_eq_ok hsign
  rw [h.session] at hsigned
  exact h.truthful.extrinsic hsigned

end Joined

end Store

namespace Workbench

open Ledger (Rules State Entries Op)

/-- Nobody closes the ledger, and who connects signs for its own account and knows the names of the
ledger. -/
def Act.Races (c : Ledger.Config) : Act → Prop
  | .connect signer config => signer.Truthful ∧ config.layout = c.layout
  | .close _ => False
  | .direct op => op ≠ .close
  | .command .. | .move _ => True

/-! ## Reading, handing in and being accepted -/

/-- The nonce that is read for a write: by which activity, and from which entries. -/
def read? (w : Workbench) : Act → Option (Nat × Entries)
  | .move number =>
    (w.found number).bind fun p =>
      match p.isFree, p.activity with
      | true, .operation _ (.nonce ..) => some (number, w.ledger.best)
      | _, _ => none
  | _ => none

theorem read?_eq_some {w : Workbench} {a : Act} {number : Nat} {e : Entries}
    (h : w.read? a = some (number, e)) :
    a = .move number ∧ ∃ p op o op' call, w.found number = some p ∧
      p.activity = .operation op (.nonce o op' call) := by
  cases a with
  | move asked =>
    obtain ⟨p, hfound, hread⟩ := Option.bind_eq_some_iff.1 h
    split at hread
    · next op o op' call hfree htask =>
      cases hread
      exact ⟨rfl, p, op, o, op', call, hfound, htask⟩
    · cases hread
  | _ => cases h

/-- The nonces that are read in some acts. -/
abbrev reads (w : Workbench) (acts : List Act) : List (Nat × Entries) :=
  w.noted (fun w a => (w.read? a).toList) acts

/-- The activity is an operation that hands in its transaction. -/
inductive HandsIn (op : Store.Operation) (x : Extrinsic) : Activity → Bool → Prop
  | pool : HandsIn op x (.operation op (.submission op x)) false
  | inBlock (kind : CallKind) : HandsIn op x (.operation op (.inclusion op kind x)) true

theorem HandsIn.op?_eq {op : Store.Operation} {x : Extrinsic} {a : Activity} {watched : Bool}
    (h : HandsIn op x a watched) : a.request.op? = some (.submit x watched) := by
  cases h <;> rfl

/-! ## What a write comes with -/

/-- The transaction is signed for the ledger, and its nonce was read from the entries. The account's nonce
has not fallen since. -/
structure Drawn (c : Ledger.Config) (acts : List Act) (number : Nat) (x : Extrinsic) (e : Entries) :
    Prop where
  read : (number, e) ∈ (Workbench.ofConfig c).reads acts
  nonce : x.nonce = (Rules.ofConfig c).nonce e x.signer
  verified : x.verify (Rules.ofConfig c).chain = .ok ()
  call : ∃ call, x.call = c.session.encodeCall call
  since : ((Rules.ofConfig c).nonce e x.signer).toNat ≤
    ((Rules.ofConfig c).nonce (after c acts).ledger.best x.signer).toNat

/-- The activity has read no nonce. -/
def Unread (c : Ledger.Config) (acts : List Act) (number : Nat) : Prop :=
  ∀ e, (number, e) ∉ (Workbench.ofConfig c).reads acts

/-- The task is one of the operation, for a store with the session of the ledger, and what it hands in
carries a nonce that was read for it. -/
def Prepared (c : Ledger.Config) (acts : List Act) (number : Nat) (op : Store.Operation) :
    Store.Task → Prop
  | .get .. | .page .. => True
  | .set o .. => Store.Joined c o ∧ op = .set ∧ Unread c acts number
  | .update o .. => Store.Joined c o ∧ op = .update ∧ Unread c acts number
  | .nonce o op' _ => Store.Joined c o ∧ op = op' ∧ Unread c acts number
  | .submission op' x | .inclusion op' _ x => op = op' ∧ ∃ e, Drawn c acts number x e
  | .release => False

/-- What a connection has learned so far is what the ledger has told. -/
def Learned (r : Rules) : Store.Connecting → Prop
  | .schema => True
  | .genesis schema => schema = r.schema
  | .version schema genesis => schema = r.schema ∧ genesis = r.genesis

/-- The activity is one of a store that signs for its own account and knows the names of the ledger. -/
def Minds (c : Ledger.Config) (acts : List Act) (number : Nat) : Activity → Prop
  | .connection signer config step =>
    signer.Truthful ∧ config.layout = c.layout ∧ Learned (Rules.ofConfig c) step
  | .operation op task => Prepared c acts number op task
  | _ => False

/-- The store has the session of the ledger, if any, and signs for its own account. -/
structure Belongs (c : Ledger.Config) (s : Store) : Prop where
  session : ∀ session, s.session = some session → session = c.session
  truthful : s.signer.Truthful

/-- A connection has ended with a store that belongs to the ledger. -/
def Connects (c : Ledger.Config) : Outcome → Prop
  | .connected (.ok s) => Belongs c s
  | _ => True

section Keeping

variable {c : Ledger.Config} {acts : List Act} {number : Nat}

theorem reads_concat (acts : List Act) (a : Act) : (Workbench.ofConfig c).reads (acts ++ [a]) =
    (Workbench.ofConfig c).reads acts ++ ((after c acts).read? a).toList := noted_concat _ acts a

theorem nonce_le_act (separate : (StorageKeys.ofLayout c.layout).Separate) (acts : List Act) (a : Act)
    (account : AccountId) :
    ((Rules.ofConfig c).nonce (after c acts).ledger.best account).toNat ≤
      ((Rules.ofConfig c).nonce (after c (acts ++ [a])).ledger.best account).toNat := by
  rw [ledger_concat]
  cases (after c acts).op? a with
  | none => exact Nat.le_refl _
  | some op => exact State.nonce_le_step separate _ op account

theorem Drawn.later (separate : (StorageKeys.ofLayout c.layout).Separate) {x : Extrinsic} {e : Entries}
    (h : Drawn c acts number x e) (a : Act) : Drawn c (acts ++ [a]) number x e where
  read := by
    rw [reads_concat]
    exact List.mem_append_left _ h.read
  nonce := h.nonce
  verified := h.verified
  call := h.call
  since := Nat.le_trans h.since (nonce_le_act separate acts a x.signer)

theorem Unread.later {a : Act} (h : Unread c acts number)
    (hread : ∀ e, (after c acts).read? a ≠ some (number, e)) : Unread c (acts ++ [a]) number := by
  intro e he
  rw [reads_concat] at he
  rcases List.mem_append.1 he with he | he
  · exact h e he
  · exact hread e (Option.mem_toList.1 he)

/-- Only activities that were set off have read. -/
theorem number_of_read {q : Nat × Entries} (h : q ∈ (Workbench.ofConfig c).reads acts) :
    q.1 < (after c acts).nextPending := by
  induction acts using List.reverseRec with
  | nil => cases h
  | append_singleton acts a ih =>
    have hnumbered := numbered_after c acts
    have hnext := (hnumbered.act (after_fronts c acts) a).2
    rw [reads_concat] at h
    rw [after_concat]
    refine Nat.lt_of_lt_of_le ?_ hnext
    rcases List.mem_append.1 h with h | h
    · exact ih h
    · obtain ⟨-, p, op, o, op', call, hfound, -⟩ := read?_eq_some (Option.mem_toList.1 h)
      exact hnumbered _ (mem_of_found hfound)

theorem unread_next (c : Ledger.Config) (acts : List Act) :
    Unread c acts (after c acts).nextPending := fun _ he => Nat.lt_irrefl _ (number_of_read he)

theorem Minds.later (separate : (StorageKeys.ofLayout c.layout).Separate) {activity : Activity} {a : Act}
    (h : Minds c acts number activity) (hread : ∀ e, (after c acts).read? a ≠ some (number, e)) :
    Minds c (acts ++ [a]) number activity := by
  cases activity with
  | operation op task =>
    cases task with
    | set o ns key data address =>
      obtain ⟨hjoined, hop, hunread⟩ := h
      exact ⟨hjoined, hop, hunread.later hread⟩
    | update o ns key transform address =>
      obtain ⟨hjoined, hop, hunread⟩ := h
      exact ⟨hjoined, hop, hunread.later hread⟩
    | nonce o op' call =>
      obtain ⟨hjoined, hop, hunread⟩ := h
      exact ⟨hjoined, hop, hunread.later hread⟩
    | submission op' x =>
      obtain ⟨hop, e, hdrawn⟩ := h
      exact ⟨hop, e, hdrawn.later separate a⟩
    | inclusion op' kind x =>
      obtain ⟨hop, e, hdrawn⟩ := h
      exact ⟨hop, e, hdrawn.later separate a⟩
    | _ => exact h
  | _ => exact h

/-! ## Setting off and going on -/

theorem minds_start {s : Store} (h : Belongs c s) {store : Nat} (command : Store.Command) :
    Comes (Minds c (acts ++ [.command store command]) (after c acts).nextPending) (Connects c)
      (.ofTask command.operation (command.start s)) := by
  have hunread := (unread_next c acts).later (a := .command store command) nofun
  rcases Store.start_cases s command with ⟨-, hstart⟩ | ⟨failure, hstart⟩ |
    ⟨session, task, hsession, hbegins, hstart⟩
  · rw [hstart]
    trivial
  · rw [hstart]
    trivial
  · rw [hstart]
    have hjoined : Store.Joined c ⟨s.signer, s.config, session⟩ :=
      ⟨h.session session hsession, h.truthful⟩
    cases hbegins with
    | get => trivial
    | set => exact ⟨hjoined, rfl, hunread⟩
    | delete => exact ⟨hjoined, rfl, hunread⟩
    | update => exact ⟨hjoined, rfl, hunread⟩
    | listKeys => trivial

theorem whileOpen_eq {α : Type} (s : State) (value : α) :
    s.whileOpen value = .ok value ∨ s.whileOpen value = .error .closed := by
  unfold State.whileOpen
  split
  · exact .inr rfl
  · exact .inl rfl

/-- What a connection learns next is what the ledger tells, and in the end it has the session of the
ledger. -/
theorem Learned.next (calls : [c.layout.setCall, c.layout.deleteCall, c.layout.updateCall].Nodup)
    {step : Store.Connecting} {value : step.request.Reply} {s next : State}
    (h : Learned (Rules.ofConfig c) step)
    (hserve : s.serve (Rules.ofConfig c) step.request = (.reply value, next)) :
    (∃ following, step.resume c.layout value = .running following ∧
      Learned (Rules.ofConfig c) following) ∨
    ∃ result, step.resume c.layout value = .ended result ∧
      ∀ session, result = .ok session → session = c.session := by
  cases step with
  | schema =>
    cases hserve
    rcases whileOpen_eq s (Rules.ofConfig c).schema with hvalue | hvalue
    · simp only [Store.Connecting.resume, hvalue]
      exact .inl ⟨_, rfl, rfl⟩
    · simp only [Store.Connecting.resume, hvalue]
      exact .inr ⟨_, rfl, nofun⟩
  | genesis schema =>
    cases hserve
    rcases whileOpen_eq s (Rules.ofConfig c).genesis with hvalue | hvalue
    · simp only [Store.Connecting.resume, hvalue]
      exact .inl ⟨_, rfl, h, rfl⟩
    · simp only [Store.Connecting.resume, hvalue]
      exact .inr ⟨_, rfl, nofun⟩
  | version schema genesis =>
    cases hserve
    obtain ⟨rfl, rfl⟩ := h
    refine .inr ?_
    rcases whileOpen_eq s (Rules.ofConfig c).version with hvalue | hvalue
    · simp only [Store.Connecting.resume, hvalue]
      refine ⟨_, rfl, ?_⟩
      intro session hsession
      exact Ledger.Config.eq_session_of_ofParts calls (Store.mapError_eq_ok hsession)
    · simp only [Store.Connecting.resume, hvalue]
      exact ⟨_, rfl, nofun⟩

theorem Learned.resume (layout : c.layout.Distinct) {signer : Signer} {config : Store.Config}
    {step : Store.Connecting} {value : step.request.Reply} {s next : State} (hsigner : signer.Truthful)
    (hconfig : config.layout = c.layout) (h : Learned (Rules.ofConfig c) step)
    (hserve : s.serve (Rules.ofConfig c) step.request = (.reply value, next)) :
    Comes (Minds c acts number) (Connects c)
      (.ofConnecting signer config (step.resume config.layout value)) := by
  rw [hconfig]
  rcases h.next layout.calls hserve with ⟨following, hnext, hlearned⟩ | ⟨result, hended, hsession⟩
  · rw [hnext]
    exact ⟨hsigner, hconfig, hlearned⟩
  · rw [hended]
    cases result with
    | error failure => trivial
    | ok session =>
      refine ⟨?_, hsigner⟩
      rintro _ ⟨⟩
      exact hsession session rfl

/-- Who reads its nonce signs for the one that the account has. -/
theorem drawn_of_read (separate : (StorageKeys.ofLayout c.layout).Separate) {p : Pending}
    {op op' : Store.Operation} {o : Store.Opened} {call : Call}
    (hfound : (after c acts).found number = some p) (hfree : p.isFree = true)
    (htask : p.activity = .operation op (.nonce o op' call)) (hjoined : Store.Joined c o) {x : Extrinsic}
    (hsign : o.sign ((Rules.ofConfig c).nonce (after c acts).ledger.best o.signer.account) call = .ok x) :
    Drawn c (acts ++ [.move number]) number x (after c acts).ledger.best := by
  obtain ⟨hsigner, hnonce, hcall, hverify⟩ := hjoined.sign_ok hsign
  refine ⟨?_, ?_, hverify, ⟨call, hcall⟩, nonce_le_act separate acts _ x.signer⟩
  · have hread : (after c acts).read? (.move number) = some (number, (after c acts).ledger.best) := by
      simp only [read?, hfound, Option.bind_some, hfree, htask]
    rw [reads_concat, hread]
    exact List.mem_append_right _ (List.mem_singleton_self _)
  · rw [hsigner]
    exact hnonce

theorem read?_ne_of_task {p : Pending} {op : Store.Operation} {task : Store.Task} {e : Entries}
    (hfound : (after c acts).found number = some p) (htask : p.activity = .operation op task)
    (hnonce : ∀ o op' call, task ≠ .nonce o op' call) :
    (after c acts).read? (.move number) ≠ some (number, e) := by
  intro hread
  obtain ⟨-, q, op'', o, op', call, hfound', htask'⟩ := read?_eq_some hread
  rw [hfound] at hfound'
  cases hfound'
  rw [htask] at htask'
  cases htask'
  exact hnonce o op' call rfl

theorem prepared_resume (separate : (StorageKeys.ofLayout c.layout).Separate) {p : Pending}
    {op : Store.Operation} {task : Store.Task} {value : task.request.Reply} {next : State}
    (hfound : (after c acts).found number = some p) (hfree : p.isFree = true)
    (htask : p.activity = .operation op task) (h : Prepared c acts number op task)
    (hserve : (after c acts).ledger.serve (Rules.ofConfig c) task.request = (.reply value, next)) :
    Store.Goes (Prepared c (acts ++ [.move number]) number op) (fun _ => True) (task.resume value) := by
  cases task with
  | get o address => exact Store.goes_andThen (fun _ _ => trivial) fun _ _ => trivial
  | set o ns key data address =>
    obtain ⟨hjoined, rfl, hunread⟩ := h
    refine Store.goes_andThen (fun _ _ => trivial) fun _ _ => ⟨hjoined, rfl, hunread.later ?_⟩
    exact fun e => read?_ne_of_task hfound htask nofun
  | update o ns key transform address =>
    obtain ⟨hjoined, rfl, hunread⟩ := h
    refine Store.goes_andThen (fun _ _ => trivial) fun _ _ => ?_
    refine Store.goes_andThen (fun _ _ => trivial) fun _ _ => ⟨hjoined, rfl, hunread.later ?_⟩
    exact fun e => read?_ne_of_task hfound htask nofun
  | nonce o op' call =>
    obtain ⟨hjoined, rfl, -⟩ := h
    -- Only from here can something be handed in: the nonce of the reply is what is read in this move.
    obtain ⟨m, hm⟩ := (inOrder_after separate acts).best
    refine Store.goes_andThen (fun _ _ => trivial) fun n hn => ?_
    refine Store.goes_andThen (fun _ _ => trivial) fun x hx => ?_
    have hsign := Store.mapError_eq_ok hx
    rw [hjoined.nonceFor_ok hm.holds hserve hn] at hsign
    have hdrawn := drawn_of_read separate hfound hfree htask hjoined hsign
    unfold Store.Task.submit
    split
    · exact ⟨rfl, _, hdrawn⟩
    · exact ⟨rfl, _, hdrawn⟩
  | submission op' x =>
    exact Store.goes_andThen (fun _ _ => trivial) fun _ _ => trivial
  | inclusion op' kind x =>
    refine Store.goes_andThen (fun _ _ => trivial) fun _ _ => ?_
    exact Store.goes_andThen (fun _ _ => trivial) fun _ _ => trivial
  | page o start after delivered =>
    cases value with
    | error failure => trivial
    | ok addresses =>
      simp only [Store.Task.resume]
      split
      · trivial
      · split
        · trivial
        · trivial
  | release => exact h.elim

/-- Who waits does not read. -/
theorem read?_ne_of_stays {p : Pending} {e : Entries} (hfound : (after c acts).found number = some p)
    (hstays : p.isFree = false ∨ ∃ ticket next,
      (after c acts).ledger.serve (Rules.ofConfig c) p.activity.request = (.waiting ticket, next)) :
    (after c acts).read? (.move number) ≠ some (number, e) := by
  intro hread
  simp only [read?, hfound, Option.bind_some] at hread
  split at hread
  · next op o op' call hfree htask =>
    rcases hstays with hheld | ⟨ticket, next, hserve⟩
    · rw [hfree] at hheld
      cases hheld
    · rw [htask] at hserve
      cases hserve
  · cases hread

/-- What is told of a receipt ends the activity, and no store comes of it. -/
theorem ended_of_receipt {a : Activity} {receipt : Except Node.Error Receipt} {value : a.request.Reply}
    (hreply : a.request.replyOfReceipt? receipt = some value) :
    ∃ outcome, a.resume value = .ended outcome ∧ ∀ result, outcome ≠ .connected result := by
  cases a with
  | operation op task =>
    cases task with
    | inclusion op' kind x =>
      have hgoes : Store.Goes (fun _ => False) (fun _ => True)
          ((Store.Task.inclusion op' kind x).resume value) := by
        refine Store.goes_andThen (fun _ _ => trivial) fun _ _ => ?_
        exact Store.goes_andThen (fun _ _ => trivial) fun _ _ => trivial
      show ∃ outcome, Progress.ofTask op ((Store.Task.inclusion op' kind x).resume value) = _ ∧ _
      cases hresume : (Store.Task.inclusion op' kind x).resume value with
      | running task =>
        rw [hresume] at hgoes
        exact hgoes.elim
      | ended keys result =>
        refine ⟨.finished op keys result, rfl, ?_⟩
        intro connected h
        cases h
    | _ => cases hreply
  | inclusion kind x =>
    refine ⟨_, rfl, ?_⟩
    intro result h
    cases h
  | watch x =>
    refine ⟨_, rfl, ?_⟩
    intro result h
    cases h
  | connection signer config step => cases step <;> cases hreply
  | _ => cases hreply

theorem minds_told {a : Activity} {receipt : Except Node.Error Receipt} {value : a.request.Reply}
    (hreply : a.request.replyOfReceipt? receipt = some value) :
    Comes (Minds c acts number) (Connects c) (a.resume value) := by
  obtain ⟨outcome, hended, hconnects⟩ := ended_of_receipt hreply
  rw [hended]
  cases outcome with
  | connected result => exact absurd rfl (hconnects result)
  | _ => trivial

/-- All that is under way is of stores that know the ledger, and comes with nonces that were read. -/
theorem minds_invariant (layout : c.layout.Distinct)
    (separate : (StorageKeys.ofLayout c.layout).Separate) :
    Invariant c (Act.Races c) (fun _ => Belongs c) (Minds c) (fun _ => Connects c) where
  connect {acts signer config} hraces := by
    obtain ⟨hsigner, hconfig⟩ := hraces
    unfold Activity.connect Store.Connecting.start
    split
    · exact ⟨hsigner, hconfig, trivial⟩
    · trivial
  command _ _ hbelongs := minds_start hbelongs _
  close hraces := hraces.elim
  release hraces := hraces.elim
  reply {acts number p value next} hfound hfree hminds hserve := by
    obtain ⟨activity, front, hold⟩ := p
    cases activity with
    | connection signer config step =>
      obtain ⟨hsigner, hconfig, hlearned⟩ := hminds
      exact hlearned.resume layout hsigner hconfig hserve
    | operation op task =>
      exact comes_ofTask (prepared_resume separate hfound hfree rfl hminds hserve) (fun _ h => h)
        fun _ _ _ => trivial
    | _ => exact hminds.elim
  told _ _ hreply := minds_told hreply
  stay hfound hstays hminds := hminds.later separate fun e => read?_ne_of_stays hfound hstays
  other _ ha hminds := hminds.later separate fun e hread => ha (read?_eq_some hread).1
  keep _ hbelongs := hbelongs
  connected hconnects := hconnects

theorem HandsIn.of_op? {a : Activity} (h : Minds c acts number a) {done : Op}
    (hop : a.request.op? = some done) :
    ∃ op x watched e, done = .submit x watched ∧ HandsIn op x a watched ∧ Drawn c acts number x e := by
  cases a with
  | connection signer config step => cases step <;> cases hop
  | operation op task =>
    cases task with
    | submission op' x =>
      obtain ⟨rfl, e, hdrawn⟩ := h
      cases hop
      exact ⟨op, x, false, e, rfl, .pool, hdrawn⟩
    | inclusion op' kind x =>
      obtain ⟨rfl, e, hdrawn⟩ := h
      cases hop
      exact ⟨op, x, true, e, rfl, .inBlock kind, hdrawn⟩
    | release => exact h.elim
    | _ => cases hop
  | _ => exact h.elim

end Keeping

/-! ## Runs -/

section Runs

variable {c : Ledger.Config} (layout : c.layout.Distinct)
  (separate : (StorageKeys.ofLayout c.layout).Separate) {acts : List Act}
  (hraces : ∀ a ∈ acts, a.Races c)

include layout separate hraces

/-- Whatever a store does with the ledger is to hand in a transaction, with a nonce that it has read. -/
theorem handsIn_of_move {number : Nat} {done : Op}
    (hdone : (after c acts).op? (.move number) = some done) :
    ∃ p op x watched e, (after c acts).found number = some p ∧ p.isFree = true ∧
      done = .submit x watched ∧ HandsIn op x p.activity watched ∧ Drawn c acts number x e := by
  cases hfound : (after c acts).found number with
  | none =>
    rw [op?_move_of_none hfound] at hdone
    cases hdone
  | some p =>
    rw [op?_move hfound] at hdone
    split at hdone
    · next hfree =>
      have hminds := ((minds_invariant layout separate).after hraces).pending _ (mem_of_found hfound)
      obtain ⟨op, x, watched, e, rfl, hhands, hdrawn⟩ := HandsIn.of_op? hminds hdone
      exact ⟨p, op, x, watched, e, rfl, hfree, rfl, hhands, hdrawn⟩
    · cases hdone

/-- No activity reads a nonce twice. -/
theorem reads_once : (((Workbench.ofConfig c).reads acts).map Prod.fst).Nodup := by
  induction acts using List.reverseRec with
  | nil => exact List.nodup_nil
  | append_singleton acts a ih =>
    have hraces' : ∀ b ∈ acts, b.Races c := fun b hb => hraces b (List.mem_append_left _ hb)
    rw [reads_concat]
    cases hread : (after c acts).read? a with
    | none =>
      rw [Option.toList_none, List.append_nil]
      exact ih hraces'
    | some q =>
      rw [Option.toList_some]
      obtain ⟨number, e⟩ := q
      obtain ⟨rfl, p, op, o, op', call, hfound, htask⟩ := read?_eq_some hread
      have hminds := ((minds_invariant layout separate).after hraces').pending _ (mem_of_found hfound)
      rw [htask] at hminds
      -- An activity that asks for its nonce has not read it yet, so its number is new in the list.
      obtain ⟨-, -, hunread⟩ := hminds
      rw [List.map_append, List.map_singleton, ← List.concat_eq_append]
      refine List.Nodup.concat ?_ (ih hraces')
      intro hmem
      obtain ⟨⟨number', e'⟩, hread', hsame⟩ := List.mem_map.1 hmem
      cases hsame
      exact hunread e' hread'

theorem reads_unique {number : Nat} {e f : Entries} (he : (number, e) ∈ (Workbench.ofConfig c).reads acts)
    (hf : (number, f) ∈ (Workbench.ofConfig c).reads acts) : e = f := by
  have hsame := List.inj_on_of_nodup_map (reads_once layout separate hraces) he hf rfl
  exact congrArg Prod.snd hsame

theorem close_notMem_ops : Op.close ∉ (Workbench.ofConfig c).ops acts := by
  intro hmem
  obtain ⟨before, a, later, rfl, hnoted⟩ := exists_act_of_mem_noted hmem
  have hdone : (after c before).op? a = some .close := Option.mem_toList.1 hnoted
  have hbefore : ∀ b ∈ before, b.Races c := fun b hb => hraces b (List.mem_append_left _ hb)
  have ha : a.Races c := hraces a (List.mem_append_right _ List.mem_cons_self)
  cases a with
  | move number =>
    obtain ⟨p, op, x, watched, e, -, -, hsubmit, -, -⟩ :=
      handsIn_of_move layout separate hbefore hdone
    cases hsubmit
  | direct op =>
    cases hdone
    exact ha rfl
  | _ => cases hdone

theorem open_after : (after c acts).ledger.closed = false := by
  rw [after_ledger]
  exact State.closed_run rfl (close_notMem_ops layout separate hraces)

end Runs

theorem steady_after {c : Ledger.Config} (separate : (StorageKeys.ofLayout c.layout).Separate)
    {acts : List Act} (few : Op.Few ((Workbench.ofConfig c).ops acts)) :
    State.Steady (Rules.ofConfig c) (after c acts).ledger
      (0 + Op.submissions ((Workbench.ofConfig c).ops acts)) := by
  rw [after_ledger]
  refine (State.Steady.initial _).run separate _ ?_
  rw [Nat.zero_add]
  exact few

theorem few_before {c : Ledger.Config} {before later : List Act}
    (few : Op.Few ((Workbench.ofConfig c).ops (before ++ later))) :
    Op.Few ((Workbench.ofConfig c).ops before) :=
  few.of_prefix ⟨_, (noted_append _ _ before later).symm⟩

end Workbench

end MetaLedger
