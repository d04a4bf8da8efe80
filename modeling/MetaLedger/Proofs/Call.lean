import MetaLedger.Ledger.Pool
import MetaLedger.Proofs.Scale.Canonical
import MetaLedger.Store.Session

/-!
# Calls find their way

A store sends a call under the position at which it found the call's name in the schema, and the ledger
reads the call's kind off the position. Where names and positions are told apart (`Distinct`), the
ledger reads the call that was sent (`call?_encodeAt`), and every name is found (`resolve_eq`).
-/

namespace MetaLedger

namespace Call

/-- The parts of a call are short enough to be written with their lengths. -/
def Short : Call → Prop
  | set ns key data | update ns key data =>
    ns.length < UInt32.size ∧ key.length < UInt32.size ∧ data.length < UInt32.size
  | delete ns key => ns.length < UInt32.size ∧ key.length < UInt32.size

theorem Short.names {c : Call} (h : c.Short) :
    c.ns.length < UInt32.size ∧ c.key.length < UInt32.size := by
  cases c with
  | set ns key data | update ns key data => exact ⟨h.1, h.2.1⟩
  | delete ns key => exact h

theorem threeParts_eq_ok_iff {make : Bytes → Bytes → Bytes → Call} {input rest : Bytes} {c : Call} :
    (do return make (← Scale.bytes) (← Scale.bytes) (← Scale.bytes) : Scale.Reader Call) input =
        .ok (c, rest) ↔
      ∃ ns key data, c = make ns key data ∧ ns.length < UInt32.size ∧ key.length < UInt32.size ∧
        data.length < UInt32.size ∧ input =
          Scale.encodeBytes ns ++ Scale.encodeBytes key ++ Scale.encodeBytes data ++ rest := by
  simp only [Scale.Reader.bind_eq_ok_iff, Scale.bytes_eq_ok_iff, Scale.Reader.pure_apply,
    List.append_assoc]
  constructor
  · rintro ⟨ns, _, ⟨hns, rfl⟩, key, _, ⟨hkey, rfl⟩, data, _, ⟨hdata, rfl⟩, h⟩
    cases h
    exact ⟨ns, key, data, rfl, hns, hkey, hdata, rfl⟩
  · rintro ⟨ns, key, data, rfl, hns, hkey, hdata, rfl⟩
    exact ⟨ns, _, ⟨hns, rfl⟩, key, _, ⟨hkey, rfl⟩, data, _, ⟨hdata, rfl⟩, rfl⟩

theorem twoParts_eq_ok_iff {make : Bytes → Bytes → Call} {input rest : Bytes} {c : Call} :
    (do return make (← Scale.bytes) (← Scale.bytes) : Scale.Reader Call) input = .ok (c, rest) ↔
      ∃ ns key, c = make ns key ∧ ns.length < UInt32.size ∧ key.length < UInt32.size ∧
        input = Scale.encodeBytes ns ++ Scale.encodeBytes key ++ rest := by
  simp only [Scale.Reader.bind_eq_ok_iff, Scale.bytes_eq_ok_iff, Scale.Reader.pure_apply,
    List.append_assoc]
  constructor
  · rintro ⟨ns, _, ⟨hns, rfl⟩, key, _, ⟨hkey, rfl⟩, h⟩
    cases h
    exact ⟨ns, key, rfl, hns, hkey, rfl⟩
  · rintro ⟨ns, key, rfl, hns, hkey, rfl⟩
    exact ⟨ns, _, ⟨hns, rfl⟩, key, _, ⟨hkey, rfl⟩, rfl⟩

/-- What is read as the arguments of a call is what a call of the kind writes. -/
theorem arguments_eq_ok_iff {kind : CallKind} {input rest : Bytes} {c : Call} :
    arguments kind input = .ok (c, rest) ↔
      c.kind = kind ∧ c.Short ∧ input = c.encodeArguments ++ rest := by
  cases kind with
  | set =>
    rw [arguments, threeParts_eq_ok_iff]
    constructor
    · rintro ⟨ns, key, data, rfl, hns, hkey, hdata, rfl⟩
      exact ⟨rfl, ⟨hns, hkey, hdata⟩, rfl⟩
    · rintro ⟨hkind, hshort, rfl⟩
      cases c with
      | set ns key data => exact ⟨ns, key, data, rfl, hshort.1, hshort.2.1, hshort.2.2, rfl⟩
      | delete ns key => cases hkind
      | update ns key data => cases hkind
  | delete =>
    rw [arguments, twoParts_eq_ok_iff]
    constructor
    · rintro ⟨ns, key, rfl, hns, hkey, rfl⟩
      exact ⟨rfl, ⟨hns, hkey⟩, rfl⟩
    · rintro ⟨hkind, hshort, rfl⟩
      cases c with
      | set ns key data => cases hkind
      | delete ns key => exact ⟨ns, key, rfl, hshort.1, hshort.2, rfl⟩
      | update ns key data => cases hkind
  | update =>
    rw [arguments, threeParts_eq_ok_iff]
    constructor
    · rintro ⟨ns, key, data, rfl, hns, hkey, hdata, rfl⟩
      exact ⟨rfl, ⟨hns, hkey, hdata⟩, rfl⟩
    · rintro ⟨hkind, hshort, rfl⟩
      cases c with
      | set ns key data => cases hkind
      | delete ns key => cases hkind
      | update ns key data => exact ⟨ns, key, data, rfl, hshort.1, hshort.2.1, hshort.2.2, rfl⟩

theorem decodeArguments_eq_ok_iff {kind : CallKind} {input : Bytes} {c : Call} :
    decodeArguments kind input = .ok c ↔ c.kind = kind ∧ c.Short ∧ input = c.encodeArguments := by
  have hwhole : arguments kind input = .ok (c, []) ↔ _ := arguments_eq_ok_iff
  rw [List.append_nil] at hwhole
  rw [← hwhole]
  unfold decodeArguments
  cases hread : arguments kind input with
  | error e => exact iff_of_false nofun nofun
  | ok result =>
    obtain ⟨found, rest⟩ := result
    cases rest with
    | nil => constructor <;> intro h <;> cases h <;> rfl
    | cons first others => exact iff_of_false nofun nofun

theorem parts_inj {ns key data ns' key' data' : Bytes} (hns : ns.length < UInt32.size)
    (hns' : ns'.length < UInt32.size) (hkey : key.length < UInt32.size)
    (hkey' : key'.length < UInt32.size)
    (h : Scale.encodeBytes ns ++ Scale.encodeBytes key ++ Scale.encodeBytes data =
      Scale.encodeBytes ns' ++ Scale.encodeBytes key' ++ Scale.encodeBytes data') :
    ns = ns' ∧ key = key' ∧ data = data' := by
  rw [List.append_assoc, List.append_assoc] at h
  obtain ⟨rfl, hrest⟩ := Scale.encodeBytes_append_inj hns hns' h
  obtain ⟨rfl, hlast⟩ := Scale.encodeBytes_append_inj hkey hkey' hrest
  exact ⟨rfl, rfl, Scale.encodeBytes_inj hlast⟩

/-- The arguments tell calls of one kind apart. The names are short, the data need not be. -/
theorem encodeArguments_inj {c d : Call} (hkind : c.kind = d.kind) (hns : c.ns.length < UInt32.size)
    (hns' : d.ns.length < UInt32.size) (hkey : c.key.length < UInt32.size)
    (hkey' : d.key.length < UInt32.size) (h : c.encodeArguments = d.encodeArguments) : c = d := by
  cases c with
  | set ns key data =>
    cases d with
    | set ns' key' data' =>
      obtain ⟨rfl, rfl, rfl⟩ := parts_inj hns hns' hkey hkey' h
      rfl
    | _ => cases hkind
  | delete ns key =>
    cases d with
    | delete ns' key' =>
      obtain ⟨hfirst, hrest⟩ := Scale.encodeBytes_append_inj hns hns' h
      obtain rfl : ns = ns' := hfirst
      obtain rfl : key = key' := Scale.encodeBytes_inj hrest
      rfl
    | _ => cases hkind
  | update ns key data =>
    cases d with
    | update ns' key' data' =>
      obtain ⟨rfl, rfl, rfl⟩ := parts_inj hns hns' hkey hkey' h
      rfl
    | _ => cases hkind

end Call

/-! ## Positions -/

/-- The three calls have positions of their own. -/
def ModuleIndices.Distinct (m : ModuleIndices) : Prop :=
  [m.setCall, m.deleteCall, m.updateCall].Nodup

instance (m : ModuleIndices) : Decidable m.Distinct :=
  inferInstanceAs (Decidable [m.setCall, m.deleteCall, m.updateCall].Nodup)

theorem ModuleIndices.callKind?_callIndex {m : ModuleIndices} (h : m.Distinct) (kind : CallKind) :
    m.callKind? (m.callIndex kind) = some kind := by
  unfold Distinct at h
  simp only [List.nodup_cons, List.mem_cons, List.not_mem_nil, or_false, not_or] at h
  obtain ⟨⟨hdelete, hupdate⟩, hupdate', -⟩ := h
  cases kind with
  | set => simp only [callKind?, callIndex, if_true]
  | delete => simp only [callKind?, callIndex, if_true, Ne.symm hdelete, if_false]
  | update => simp only [callKind?, callIndex, if_true, Ne.symm hupdate, Ne.symm hupdate', if_false]

theorem EncodedCall.eq_of_index? {c : EncodedCall} {index : CallIndex} (h : c.index? = some index) :
    c = ⟨index.pallet :: index.call :: c.arguments⟩ := by
  obtain ⟨raw⟩ := c
  match raw, h with
  | pallet :: call :: rest, h =>
    cases h
    rfl

/-- A ledger reads a call where the call's arguments, and nothing more, stand behind a position at
which it expects a call of the kind. -/
theorem Ledger.Rules.call?_eq_some_iff {r : Rules} {encoded : EncodedCall} {c : Call} :
    r.call? encoded = some c ↔
      ∃ index, r.indices.callKind? index = some c.kind ∧ c.Short ∧ encoded = c.encodeAt index := by
  constructor
  · intro h
    unfold call? at h
    obtain ⟨index, hindex, hkinds⟩ := Option.bind_eq_some_iff.1 h
    obtain ⟨kind, hkind, hread⟩ := Option.bind_eq_some_iff.1 hkinds
    cases hdecode : Call.decodeArguments kind encoded.arguments with
    | error e =>
      rw [hdecode] at hread
      cases hread
    | ok found =>
      rw [hdecode] at hread
      cases hread
      obtain ⟨rfl, hshort, harguments⟩ := Call.decodeArguments_eq_ok_iff.1 hdecode
      refine ⟨index, hkind, hshort, ?_⟩
      rw [EncodedCall.eq_of_index? hindex, harguments]
      rfl
  · rintro ⟨index, hkind, hshort, rfl⟩
    have hread : Call.decodeArguments c.kind c.encodeArguments = .ok c :=
      Call.decodeArguments_eq_ok_iff.2 ⟨rfl, hshort, rfl⟩
    show (r.indices.callKind? index).bind
      (fun kind => (Call.decodeArguments kind c.encodeArguments).toOption) = some c
    rw [hkind, Option.bind_some, hread]
    rfl

/-- The ledger reads the call that is sent. -/
theorem Ledger.Rules.call?_encodeAt {r : Rules} (h : r.indices.Distinct) {c : Call}
    (hshort : c.Short) : r.call? (c.encodeAt (r.indices.callIndex c.kind)) = some c :=
  call?_eq_some_iff.2 ⟨_, ModuleIndices.callKind?_callIndex h c.kind, hshort, rfl⟩

/-- If the ledger reads a call where one was sent, it is that one, also if its data are too long. -/
theorem Ledger.Rules.eq_of_call?_encodeAt {r : Rules} (h : r.indices.Distinct) {c found : Call}
    (hns : c.ns.length < UInt32.size) (hkey : c.key.length < UInt32.size)
    (hread : r.call? (c.encodeAt (r.indices.callIndex c.kind)) = some found) : found = c := by
  obtain ⟨index, hkind, hshort, hsent⟩ := call?_eq_some_iff.1 hread
  obtain ⟨hpallet, hrest⟩ := List.cons.inj (congrArg EncodedCall.raw hsent)
  obtain ⟨hcall, harguments⟩ := List.cons.inj hrest
  have hindex : r.indices.callIndex c.kind = index := by
    cases hposition : r.indices.callIndex c.kind
    cases index
    rw [hposition] at hpallet hcall
    cases hpallet
    cases hcall
    rfl
  rw [← hindex, ModuleIndices.callKind?_callIndex h] at hkind
  have hkinds : found.kind = c.kind := (Option.some.inj hkind).symm
  exact Call.encodeArguments_inj hkinds hshort.names.1 hns hshort.names.2 hkey harguments.symm

/-! ## Names -/

/-- The two pallets and the three calls have names of their own. -/
structure Layout.Distinct (layout : Layout) : Prop where
  pallets : layout.pallet ≠ layout.systemPallet
  calls : [layout.setCall, layout.deleteCall, layout.updateCall].Nodup

section Schema

variable (m : ModuleIndices) (metadata : Bytes) {layout : Layout} (h : layout.Distinct)

theorem ModuleIndices.ensureStorage_system :
    (m.schema metadata layout).ensureStorage layout.systemPallet layout.accountItem = .ok () := by
  simp [schema, RuntimeSchema.ensureStorage, RuntimeSchema.pallet?]

include h

theorem ModuleIndices.pallet?_schema : (m.schema metadata layout).pallet? layout.pallet =
    some ⟨layout.pallet, m.pallet, [⟨layout.setCall, m.setCall⟩, ⟨layout.deleteCall, m.deleteCall⟩,
      ⟨layout.updateCall, m.updateCall⟩], [layout.storageItem]⟩ := by
  simp [schema, RuntimeSchema.pallet?, Ne.symm h.pallets]

theorem ModuleIndices.ensureStorage_records :
    (m.schema metadata layout).ensureStorage layout.pallet layout.storageItem = .ok () := by
  simp [RuntimeSchema.ensureStorage, m.pallet?_schema metadata h]

theorem ModuleIndices.callIndex_schema (kind : CallKind) :
    (m.schema metadata layout).callIndex layout.pallet (kind.callName layout) =
      .ok (m.callIndex kind) := by
  have hpallet := m.pallet?_schema metadata h
  obtain ⟨-, hcalls⟩ := h
  simp only [List.nodup_cons, List.mem_cons, List.not_mem_nil, or_false, not_or] at hcalls
  obtain ⟨⟨hdelete, hupdate⟩, hupdate', -⟩ := hcalls
  unfold RuntimeSchema.callIndex
  rw [hpallet]
  cases kind with
  | set => simp [CallKind.callName, callIndex]
  | delete => simp [CallKind.callName, callIndex, hdelete]
  | update => simp [CallKind.callName, callIndex, hupdate, hupdate']

end Schema

/-! ## Sessions -/

/-- The session of a store whose layout is that of the ledger. -/
def Ledger.Config.session (c : Ledger.Config) : Store.Session where
  schema := (Ledger.Rules.ofConfig c).schema
  chain := (Ledger.Rules.ofConfig c).chain
  layout := c.layout
  keys := StorageKeys.ofLayout c.layout
  setCall := c.indices.callIndex .set
  deleteCall := c.indices.callIndex .delete
  updateCall := c.indices.callIndex .update

theorem Ledger.Config.session_callIndex (c : Ledger.Config) (kind : CallKind) :
    c.session.callIndex kind = c.indices.callIndex kind := by
  cases kind <;> rfl

/-- Every name is found, at the position where the ledger expects its calls. -/
theorem Ledger.Config.resolve_eq {c : Ledger.Config} (h : c.layout.Distinct) :
    Store.Session.resolve (Rules.ofConfig c).schema (Rules.ofConfig c).chain c.layout =
      .ok c.session := by
  have hschema : (Rules.ofConfig c).schema = c.indices.schema Rules.metadata c.layout := rfl
  have hcall := c.indices.callIndex_schema Rules.metadata h
  have hset := hcall .set
  have hdelete := hcall .delete
  have hupdate := hcall .update
  unfold CallKind.callName at hset hdelete hupdate
  unfold Store.Session.resolve
  rw [hschema, c.indices.ensureStorage_records Rules.metadata h,
    c.indices.ensureStorage_system Rules.metadata, hset, hdelete, hupdate]
  rfl

theorem Ledger.Config.ofParts_eq {c : Ledger.Config} (h : c.layout.Distinct) :
    Store.Session.ofParts (Rules.ofConfig c).schema
      ⟨(Rules.ofConfig c).genesis, (Rules.ofConfig c).version⟩ c.layout = .ok c.session := by
  have hresolve := Ledger.Config.resolve_eq h
  unfold Rules.chain at hresolve
  unfold Store.Session.ofParts
  rw [hresolve]

/-- A session that is resolved under the ledger's layout is the ledger's. -/
theorem Ledger.Config.eq_session_of_ofParts {c : Ledger.Config}
    (calls : [c.layout.setCall, c.layout.deleteCall, c.layout.updateCall].Nodup)
    {session : Store.Session}
    (h : Store.Session.ofParts (Rules.ofConfig c).schema
      ⟨(Rules.ofConfig c).genesis, (Rules.ofConfig c).version⟩ c.layout = .ok session) :
    session = c.session := by
  by_cases hpallets : c.layout.pallet = c.layout.systemPallet
  · -- The calls are looked up in the pallet that comes first, which has none.
    have hcall : (Rules.ofConfig c).schema.callIndex c.layout.pallet c.layout.setCall =
        .error (.unknownCall c.layout.pallet c.layout.setCall) := by
      simp [Rules.ofConfig, ModuleIndices.schema, RuntimeSchema.callIndex, RuntimeSchema.pallet?,
        hpallets]
    unfold Store.Session.ofParts Store.Session.resolve at h
    simp only [hcall] at h
    cases hrecords : (Rules.ofConfig c).schema.ensureStorage c.layout.pallet c.layout.storageItem with
    | error failure =>
      rw [hrecords] at h
      cases h
    | ok =>
      cases haccounts : (Rules.ofConfig c).schema.ensureStorage c.layout.systemPallet
          c.layout.accountItem with
      | error failure =>
        rw [hrecords, haccounts] at h
        cases h
      | ok =>
        rw [hrecords, haccounts] at h
        cases h
  · rw [Ledger.Config.ofParts_eq ⟨hpallets, calls⟩] at h
    cases h
    rfl

end MetaLedger
