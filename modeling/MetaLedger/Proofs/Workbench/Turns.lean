import MetaLedger.Proofs.Ed25519.Neutral
import MetaLedger.Proofs.Store.Refinement

/-!
# Stores that take turns

Any number of stores at one ledger, connected at any time, issue commands one after the other (`Turn`,
`run`). All that this comes to is a map of records and the list of the stores (`Registry`): the
workbench stands for the registry at first, and each turn keeps that up and is answered as the registry
says (`Stands.turn`). So every turn of every run is answered so (`run_agrees`).
-/

namespace MetaLedger.Workbench

open Ledger (Rules State)

/-- What a client does next. -/
inductive Turn where
  | connect (signer : Signer) (config : Store.Config)
  /-- Has a store do something; the number names it. -/
  | command (store : Nat) (command : Store.Command)

def turn (w : Workbench) : Turn → Standing × Workbench
  | .connect signer config => w.connect signer config none
  | .command store command =>
    match w.clients[store]? with
    | some client => w.begin client.front (.ofTask command.operation (command.start client.store))
    | none => (.unknown, w)

def run (w : Workbench) (turns : List Turn) : Workbench :=
  turns.foldl (fun w t => (w.turn t).2) w

/-! ## What the turns are for -/

/-- The stores, in the order of their numbers, and the records. -/
structure Registry where
  stores : List (Signer × Store.Config) := []
  records : Store.Contents := .empty

namespace Registry

def after (g : Registry) : Turn → Registry
  | .connect signer config => { g with stores := g.stores ++ [(signer, config)] }
  | .command store command =>
    match g.stores[store]? with
    | some (signer, _) => { g with records := g.records.after signer.account command }
    | none => g

def run (g : Registry) (turns : List Turn) : Registry := turns.foldl after g

/-- A store's configuration has the ledger's layout and a meaning, and writes for accounts that are not
there yet. -/
structure Fits (layout : Layout) (config : Store.Config) : Prop where
  layout : config.layout = layout
  absent : config.absentAccount = .assumeZero
  valid : config.validate = .ok ()

def Admits (layout : Layout) (g : Registry) : Turn → Prop
  | .connect signer config => signer.Honest ∧ Fits layout config
  | .command _ command => command.Short g.records

/-- What is asked of turns, of each at its time. -/
def AdmitsAll (layout : Layout) : Registry → List Turn → Prop
  | _, [] => True
  | g, t :: turns => g.Admits layout t ∧ (g.after t).AdmitsAll layout turns

/-- How a turn ends. A refusal names the block of the transaction. -/
def Answers (session : Store.Session) (block : BlockHash) (g : Registry) : Turn → Standing → Prop
  | .connect signer config, standing =>
    standing = .ended (.connected (.ok (Store.withSession signer config session)))
  | .command store command, standing =>
    match g.stores[store]? with
    | some (signer, config) =>
      ∃ delivered result, standing = .ended (.finished command.operation delivered result) ∧
        g.records.Answers signer.account config.submission block command delivered result
    | none => standing = .unknown

end Registry

/-! ## One turn -/

/-- A workbench with a ledger of this configuration stands for a registry. -/
structure Stands (c : Ledger.Config) (w : Workbench) (g : Registry) : Prop where
  rules : w.rules = Rules.ofConfig c
  serves : Store.Serves (Rules.ofConfig c) w.ledger g.records
  clients : w.clients = g.stores.map fun s => ⟨Store.withSession s.1 s.2 c.session, none⟩
  attached : ∀ s ∈ g.stores, Store.Attached c ⟨s.1, s.2, c.session⟩

variable {c : Ledger.Config} {w : Workbench} {g : Registry}

theorem stands_ofConfig (c : Ledger.Config) : Stands c (Workbench.ofConfig c) {} where
  rules := rfl
  serves := Store.serves_initial _
  clients := rfl
  attached _ hs := nomatch hs

theorem Registry.Fits.pageSize_ne_zero {layout : Layout} {config : Store.Config}
    (h : Registry.Fits layout config) : config.pageSize ≠ 0 := by
  intro hzero
  have hvalid := h.valid
  unfold Store.Config.validate at hvalid
  rw [if_pos hzero] at hvalid
  cases hvalid

theorem serve_of_open (hopen : w.ledger.closed = false) :
    w.ledger.serve w.rules .runtimeSchema = (.reply (.ok w.rules.schema), w.ledger) ∧
      w.ledger.serve w.rules .genesisHash = (.reply (.ok w.rules.genesis), w.ledger) ∧
      w.ledger.serve w.rules .runtimeVersion = (.reply (.ok w.rules.version), w.ledger) := by
  simp only [State.serve, State.whileOpen, hopen]
  exact ⟨rfl, rfl, rfl⟩

/-- A connection asks three things, which change nothing, and finds every name. -/
theorem drive_connection (distinct : c.layout.Distinct) (hrules : w.rules = Rules.ofConfig c)
    (hopen : w.ledger.closed = false) (signer : Signer) {config : Store.Config}
    (hlayout : config.layout = c.layout) (limit : Nat) :
    w.drive (limit + 3) { activity := .connection signer config .schema } =
      (.ended (.connected (.ok (Store.withSession signer config c.session))), w) := by
  obtain ⟨hschema, hgenesis, hversion⟩ := serve_of_open hopen
  have hparts : Store.Session.ofParts w.rules.schema ⟨w.rules.genesis, w.rules.version⟩
      config.layout = .ok c.session := by
    rw [hrules, hlayout]
    exact Ledger.Config.ofParts_eq distinct
  rw [drive_of_reply (a := .connection signer config .schema) hschema]
  show w.drive (limit + 2) { activity := .connection signer config (.genesis _) } = _
  rw [drive_of_reply (a := .connection signer config (.genesis _)) hgenesis]
  show w.drive (limit + 1) { activity := .connection signer config (.version _ _) } = _
  rw [drive_of_reply (a := .connection signer config (.version _ _)) hversion]
  simp only [Activity.resume, Store.Connecting.resume, hparts]
  rfl

theorem connect_eq (distinct : c.layout.Distinct) (hrules : w.rules = Rules.ofConfig c)
    (hopen : w.ledger.closed = false) (signer : Signer) {config : Store.Config}
    (hfits : Registry.Fits c.layout config) :
    w.connect signer config none =
      (.ended (.connected (.ok (Store.withSession signer config c.session))),
        { w with clients := w.clients ++ [⟨Store.withSession signer config c.session, none⟩] }) := by
  have hstart : Activity.connect signer config = .running (.connection signer config .schema) := by
    unfold Activity.connect Store.Connecting.start
    rw [hfits.valid]
    rfl
  have hmoves : w.moves { activity := .connection signer config .schema } =
      (5 + w.ledger.best.size) + 3 := by
    show 8 + w.ledger.best.size + 0 = _
    omega
  have hdrive := drive_connection distinct hrules hopen signer hfits.layout (5 + w.ledger.best.size)
  unfold connect
  rw [hstart]
  unfold begin
  simp only [hmoves, hdrive, keep]

theorem Stands.connect (distinct : c.layout.Distinct) (h : Stands c w g) {signer : Signer}
    {config : Store.Config} (honest : signer.Honest) (hfits : Registry.Fits c.layout config) :
    Stands c (w.turn (.connect signer config)).2 (g.after (.connect signer config)) ∧
      (w.turn (.connect signer config)).1 =
        .ended (.connected (.ok (Store.withSession signer config c.session))) := by
  have hturn : w.turn (.connect signer config) = _ :=
    connect_eq distinct h.rules h.serves.quiet.isOpen signer hfits
  rw [hturn]
  refine ⟨⟨h.rules, h.serves, ?_, ?_⟩, rfl⟩
  · simp only [Registry.after, List.map_append, h.clients, List.map_cons, List.map_nil]
  · intro s hs
    rcases List.mem_append.1 hs with hs | hs
    · exact h.attached s hs
    · obtain rfl := List.mem_singleton.1 hs
      exact ⟨rfl, honest, hfits.absent, hfits.pageSize_ne_zero⟩

/-- **A turn keeps the workbench in step with the registry**, and is answered as the registry says. -/
theorem Stands.turn (fit : Store.Fitting c) (h : Stands c w g) {t : Turn}
    (hadmits : g.Admits c.layout t) :
    Stands c (w.turn t).2 (g.after t) ∧
      g.Answers c.session (w.turn t).2.ledger.head t (w.turn t).1 := by
  cases t with
  | connect signer config => exact h.connect fit.layout hadmits.1 hadmits.2
  | command store command =>
    have hclients : w.clients[store]? =
        g.stores[store]?.map fun s => ⟨Store.withSession s.1 s.2 c.session, none⟩ := by
      rw [h.clients, List.getElem?_map]
    cases hstore : g.stores[store]? with
    | none =>
      rw [hstore] at hclients
      have hturn : w.turn (.command store command) = (.unknown, w) := by
        unfold Workbench.turn
        simp only [hclients, Option.map_none]
      simp only [hturn, Registry.after, Registry.Answers, hstore]
      exact ⟨h, trivial⟩
    | some s =>
      obtain ⟨signer, config⟩ := s
      rw [hstore] at hclients
      have attached := h.attached _ (List.mem_of_getElem? hstore)
      obtain ⟨moves, t, delivered, result, hmoves, hcompletes, hanswers, hnext⟩ :=
        h.serves.command attached fit hadmits
      rw [← h.rules] at hcompletes
      have hbegin := begin_of_completes command.operation hcompletes hmoves
      have hturn : w.turn (.command store command) =
          (.ended (.finished command.operation delivered result), { w with ledger := t }) := by
        unfold Workbench.turn
        simp only [hclients, Option.map_some]
        exact hbegin
      simp only [hturn, Registry.after, Registry.Answers, hstore]
      exact ⟨⟨h.rules, hnext, h.clients, h.attached⟩, delivered, result, rfl, hanswers⟩

/-! ## All turns -/

theorem Stands.run (fit : Store.Fitting c) (h : Stands c w g) {turns : List Turn}
    (hadmits : g.AdmitsAll c.layout turns) : Stands c (w.run turns) (g.run turns) := by
  induction turns generalizing w g with
  | nil => exact h
  | cons t turns ih =>
    obtain ⟨hfirst, hrest⟩ := hadmits
    exact ih (h.turn fit hfirst).1 hrest

theorem Registry.AdmitsAll.append {layout : Layout} {g : Registry} {before turns : List Turn}
    (h : g.AdmitsAll layout (before ++ turns)) :
    g.AdmitsAll layout before ∧ (g.run before).AdmitsAll layout turns := by
  induction before generalizing g with
  | nil => exact ⟨trivial, h⟩
  | cons t before ih =>
    obtain ⟨hfirst, hrest⟩ := h
    obtain ⟨hbefore, hturns⟩ := ih hrest
    exact ⟨⟨hfirst, hbefore⟩, hturns⟩

/-- Every turn is answered as the registry says that the turns before it have come to, and in the end
the ledger holds the registry's records. -/
structure Agrees (c : Ledger.Config) (turns : List Turn) : Prop where
  answers : ∀ before t later, turns = before ++ t :: later →
    (Registry.run {} before).Answers c.session
      (((Workbench.ofConfig c).run before).turn t).2.ledger.head t
      (((Workbench.ofConfig c).run before).turn t).1
  holds : Store.Holds (Rules.ofConfig c) ((Workbench.ofConfig c).run turns).ledger.best
    (Registry.run {} turns).records

/-- **The stores of a ledger are a map of records**, whatever commands they take turns with. -/
theorem run_agrees (fit : Store.Fitting c) {turns : List Turn}
    (hadmits : Registry.AdmitsAll c.layout {} turns) : Agrees c turns := by
  constructor
  · rintro before t later rfl
    obtain ⟨hbefore, ht, -⟩ := hadmits.append
    have hstands := (stands_ofConfig c).run fit hbefore
    exact (hstands.turn fit ht).2
  · exact ((stands_ofConfig c).run fit hadmits).serves.holds

/-! ## Two stores at one record -/

theorem honest_neutral {key : Fixed 32} (h : Ed25519.NamesNeutral key) :
    (Signer.neutral key).Honest := by
  intro payload
  exact ⟨Ed25519.neutralSignature, rfl, Ed25519.verify_neutral h payload⟩

open Ed25519 (neutralKey signedNeutralKey) in
/-- The second store waits for the block, and sees that the record is not its own. -/
def Turn.twoStores : List Turn :=
  [.connect (.neutral neutralKey) {}, .command 0 (.set [7] [1] [2]),
    .connect (.neutral signedNeutralKey) { submission := .inBlock, pageSize := 1 },
    .command 1 (.set [7] [1] [3]), .command 1 (.set [7] [2] [4]), .command 0 (.listKeys [7]),
    .command 0 (.update [7] [1] fun _ => .ok [5]), .command 1 (.delete [7] [2]),
    .command 1 (.get [7] [2])]

theorem run_agrees_twoStores :
    Store.Fitting {} ∧ Registry.AdmitsAll ({} : Ledger.Config).layout {} Turn.twoStores ∧
      Agrees {} Turn.twoStores := by
  have fit : Store.Fitting {} :=
    ⟨rfl, rfl, ⟨by decide, by decide⟩, by decide, by decide +kernel⟩
  have hadmits : Registry.AdmitsAll ({} : Ledger.Config).layout {} Turn.twoStores := by
    refine ⟨⟨honest_neutral Ed25519.neutralKey_namesNeutral, rfl, rfl, rfl⟩, ?_,
      ⟨honest_neutral Ed25519.signedNeutralKey_namesNeutral, rfl, rfl, rfl⟩, ?_, ?_, ?_, ?_,
      ?_, ?_, trivial⟩
    · exact ⟨by decide, by decide, by decide⟩
    · exact ⟨by decide, by decide, by decide⟩
    · exact ⟨by decide, by decide, by decide⟩
    · exact (by decide : [7].length < UInt32.size)
    · refine ⟨by decide, by decide, ?_⟩
      rintro record data - ⟨⟩
      decide
    · exact ⟨by decide, by decide⟩
    · exact ⟨by decide, by decide⟩
  exact ⟨fit, hadmits, run_agrees fit hadmits⟩

end MetaLedger.Workbench
