import MetaLedger.Proofs.Extrinsic
import MetaLedger.Proofs.Store.Steps
import MetaLedger.Proofs.Workbench.Interleaving

/-!
# Nothing that is stored is unreadable

Whatever clients do with a ledger at the same time, its entries are accounts and records (`Filed`), and a
store that files things where the ledger does reads them as what they are. So no call is refused, and no
operation fails, because of a stored value that cannot be read (`after_legible`).
-/

namespace MetaLedger.Workbench

open Ledger (Rules State)

/-- A store that is connected files things where the ledger does, and no transform claims to have met
something unreadable. -/
def Act.Fits (c : Ledger.Config) : Act → Prop
  | .connect _ config => StorageKeys.ofLayout config.layout = StorageKeys.ofLayout c.layout
  | .command _ asked => asked.Sound
  | _ => True

/-- The store files things where the ledger does. -/
def FilesAt (r : Rules) (s : Store) : Prop := ∀ session, s.session = some session → session.keys = r.keys

/-- The activity reads where the ledger files things. -/
def ReadsAt (r : Rules) : Activity → Prop
  | .connection _ config _ => StorageKeys.ofLayout config.layout = r.keys
  | .operation _ task => Store.Reads r task
  | _ => True

theorem filesAt_close {r : Rules} {s : Store} (h : FilesAt r s) : FilesAt r s.close.1 := by
  intro session hsession
  unfold Store.close at hsession
  cases hs : s.session with
  | none =>
    rw [hs] at hsession
    exact h session hsession
  | some found =>
    rw [hs] at hsession
    cases hsession

/-- The addresses of a session are those of the layout that it was looked up for. -/
theorem keys_of_ofParts {schema : RuntimeSchema} {chain : ChainBinding} {layout : Layout}
    {session : Store.Session} (h : Store.Session.ofParts schema chain layout = .ok session) :
    session.keys = StorageKeys.ofLayout layout := by
  unfold Store.Session.ofParts at h
  cases hresolve : Store.Session.resolve schema chain layout with
  | error failure =>
    rw [hresolve] at h
    cases h
  | ok found =>
    rw [hresolve] at h
    cases h
    unfold Store.Session.resolve at hresolve
    simp only [Extrinsic.bind_eq_ok_iff] at hresolve
    obtain ⟨_, -, _, -, _, -, _, -, _, -, hsession⟩ := hresolve
    cases hsession
    rfl

/-- A connected store files things where the ledger does, and no operation has failed to read something
stored. -/
def Readable (r : Rules) : Outcome → Prop
  | .connected (.ok s) => FilesAt r s
  | .finished _ _ result => Store.Decoded result
  | _ => True

variable {c : Ledger.Config} {r : Rules}

theorem comes_ofTask {T : Store.Task → Prop} {D : Except Store.Error Store.Output → Prop}
    {A : Activity → Prop} {F : Outcome → Prop} {op : Store.Operation} {p : Store.Progress}
    (h : Store.Goes T D p) (hA : ∀ task, T task → A (.operation op task))
    (hF : ∀ keys result, D result → F (.finished op keys result)) : Comes A F (.ofTask op p) := by
  cases p with
  | running task => exact hA task h
  | ended keys result => exact hF keys result h

theorem comes_of_reads {op : Store.Operation} {p : Store.Progress}
    (h : Store.Goes (Store.Reads r) Store.Decoded p) :
    Comes (ReadsAt r) (Readable r) (.ofTask op p) :=
  comes_ofTask h (fun _ hreads => hreads) fun _ _ hdecoded => hdecoded

theorem reads_reply {s next : State} (hholds : ∃ m, Store.Holds r s.best m) {a : Activity}
    {value : a.request.Reply} (h : ReadsAt r a)
    (hserve : s.serve r a.request = (.reply value, next)) :
    Comes (ReadsAt r) (Readable r) (a.resume value) := by
  cases a with
  | connection signer config step =>
    cases step with
    | schema =>
      cases value with
      | ok found => exact h
      | error failure => trivial
    | genesis schema =>
      cases value with
      | ok found => exact h
      | error failure => trivial
    | version schema genesis =>
      cases value with
      | ok found =>
        show Comes _ _ (Progress.ofConnecting signer config (.ended
          ((Store.Session.ofParts schema ⟨genesis, found⟩ config.layout).mapError _)))
        cases hparts : Store.Session.ofParts schema ⟨genesis, found⟩ config.layout with
        | ok session =>
          intro opened hopened
          cases hopened
          exact (keys_of_ofParts hparts).trans h
        | error failure => trivial
      | error failure => trivial
  | operation op task =>
    obtain ⟨m, hm⟩ := hholds
    exact comes_of_reads (Store.Reads.resume h hm hserve)
  | nonceQuery session account => trivial
  | submission kind x => trivial
  | inclusion kind x => trivial
  | watch x => trivial

/-- A receipt ends the activity that waits for it. -/
theorem reads_told {a : Activity} {receipt : Except Node.Error Receipt} {value : a.request.Reply}
    (hreply : a.request.replyOfReceipt? receipt = some value) :
    Comes (ReadsAt r) (Readable r) (a.resume value) := by
  cases a with
  | operation op task =>
    cases task with
    | inclusion op' kind x => exact comes_of_reads (Store.goes_inclusion op' kind x value)
    | _ => cases hreply
  | inclusion kind x => trivial
  | watch x => trivial
  | connection signer config step => cases step <;> cases hreply
  | _ => cases hreply

theorem reads_start {s : Store} (hfiles : FilesAt r s) {command : Store.Command}
    (hsound : command.Sound) :
    Comes (ReadsAt r) (Readable r) (.ofTask command.operation (command.start s)) := by
  refine comes_of_reads ?_
  rcases Store.start_cases s command with ⟨-, hstart⟩ | ⟨failure, hstart⟩ |
    ⟨session, task, hsession, hbegins, hstart⟩
  · rw [hstart]
    exact Store.decoded_of_cause nofun nofun
  · rw [hstart]
    exact Store.decoded_of_cause nofun nofun
  · rw [hstart]
    exact hbegins.reads (hfiles session hsession) hsound

/-! ## Runs -/

theorem inOrder_after (separate : (StorageKeys.ofLayout c.layout).Separate) (acts : List Act) :
    Store.InOrder (Rules.ofConfig c) (after c acts).ledger := by
  rw [after_ledger]
  exact (Store.InOrder.initial _).run separate _

theorem reads_invariant (separate : (StorageKeys.ofLayout c.layout).Separate) :
    Invariant c (Act.Fits c) (fun _ => FilesAt (Rules.ofConfig c))
      (fun _ _ => ReadsAt (Rules.ofConfig c)) (fun _ => Readable (Rules.ofConfig c)) where
  connect {acts signer config} hfits := by
    unfold Activity.connect Store.Connecting.start
    split
    · exact hfits
    · trivial
  command _ hsound hfiles := reads_start hfiles hsound
  close _ hfiles := filesAt_close hfiles
  release {acts store s} _ hfiles := by
    unfold Store.close
    split
    · trivial
    · exact Store.decoded_ok _
  reply {acts number p value next} _ _ hreads hserve := by
    obtain ⟨m, hbest⟩ := (inOrder_after separate acts).best
    exact reads_reply ⟨m, hbest.holds⟩ hreads hserve
  told _ _ hreply := reads_told hreply
  stay _ _ hreads := hreads
  other _ _ hreads := hreads
  keep _ hfiles := hfiles
  connected hfiles := hfiles

/-- The entries are accounts and records, and an account that is not read has none. -/
structure Legible (r : Rules) (e : Ledger.Entries) : Prop where
  entries : Store.WellFiled r e
  accounts : ∀ a, r.accountInfo? e a = none → e.get? (r.keys.accountAddress a) = none

theorem legible_of_filed (separate : r.keys.Separate) {e : Ledger.Entries}
    (h : ∃ m, Store.Filed r e m) : Legible r e := by
  obtain ⟨m, hm⟩ := h
  exact ⟨hm.wellFiled separate, fun _ hnone => hm.get?_of_accountInfo?_none hnone⟩

/-- **Nothing stored is unreadable.** Whatever clients do with a ledger at the same time, and whatever is
done with it directly, each of its entries is one account's state or one record, at the head and at the
blocks before it whose entries are kept. No call has been refused, and no operation fails, because a
stored value could not be read. -/
theorem after_legible (c : Ledger.Config) (separate : (StorageKeys.ofLayout c.layout).Separate)
    (acts : List Act) (hfits : ∀ a ∈ acts, a.Fits c) :
    let r := Rules.ofConfig c
    let s := (after c acts).ledger
    Legible r s.best ∧ (∀ b ∈ s.past, Legible r b.2) ∧
      (∀ x ∈ s.events, ∀ name, x.event ≠ .failed (.other name)) ∧
      ∀ before a later, acts = before ++ a :: later → ∀ op keys failure,
        ((after c before).act a).1 = some (.ended (.finished op keys (.error failure))) →
        ¬failure.Undecodable := by
  intro r s
  have horder := inOrder_after separate acts
  refine ⟨legible_of_filed separate horder.best, ?_, horder.events, ?_⟩
  · intro b hb
    exact legible_of_filed separate (horder.past b hb)
  · rintro before a later rfl op keys failure hended
    have hbefore : ∀ b ∈ before, b.Fits c := fun b hb => hfits b (List.mem_append_left _ hb)
    have ha : a.Fits c := hfits a (List.mem_append_right _ List.mem_cons_self)
    have hdecoded : Store.Decoded (.error failure) :=
      (reads_invariant separate).ended hbefore ha hended
    exact hdecoded failure rfl

/-- The first write creates a record, and its block is there before the second store hands in. -/
theorem after_legible_race :
    let c : Ledger.Config := {}
    (∀ a ∈ Act.race, a.Fits c) ∧ Legible (Rules.ofConfig c) (after c Act.race).ledger.best := by
  intro c
  have separate : (StorageKeys.ofLayout c.layout).Separate := by decide +kernel
  have hfits : ∀ a ∈ Act.race, a.Fits c := by
    simp only [Act.race, Act.readers, List.cons_append, List.nil_append, List.forall_mem_cons,
      List.not_mem_nil, false_imp_iff, implies_true, and_true]
    exact ⟨rfl, rfl, trivial, trivial, trivial, trivial, trivial, trivial, trivial, trivial, trivial,
      trivial, trivial, trivial, trivial⟩
  exact ⟨hfits, (after_legible c separate Act.race hfits).1⟩

end MetaLedger.Workbench
