import Mathlib.Data.List.Forall2
import MetaLedger.Metadata.Schema
import MetaLedger.Proofs.Metadata.WrittenForm

/-!
# What metadata declares

The schema that is taken from metadata says of each pallet what the metadata says of it (`Describes`):
its calls are the alternatives of the enum at the position of its call type. Where there is no such enum
the first pallet without one decides the failure (`Undeclared`). This holds for whatever metadata of
the two formats has a written form (`decodeSchema_faithful`).

As metadata has one written form, its end is where the written form ends. What follows does not matter,
and metadata that ends before is never taken for metadata (`decodeSchema_whole`).
-/

namespace MetaLedger.Metadata

open Scale (Codec)

/-! ## Pallets -/

/-- The calls of a pallet: none without a call type, and else the alternatives of the enum at its
position. -/
inductive CallsOf (types : Registry) : Option TypeId → List CallSchema → Prop
  | none : CallsOf types none []
  | enum {id : TypeId} {entry : TypeEntry} {variants : List Variant}
      (hentry : types[id.toNat]? = some entry) (henum : entry.definition = .variant variants) :
      CallsOf types (some id) (variants.map fun v => ⟨v.name, v.index⟩)

/-- A pallet whose call type is outside the registry or no enum, and the cause that names it. -/
inductive Undeclared (types : Registry) (p : Pallet) : Node.AnswerCause → Prop
  | missing {id : TypeId} (hcalls : p.calls = some id) (hid : types.length ≤ id.toNat) :
      Undeclared types p (.callTypeMissing p.name id.toNat)
  | noEnum {id : TypeId} {entry : TypeEntry} (hcalls : p.calls = some id)
      (hentry : types[id.toNat]? = some entry)
      (hother : ∀ variants, entry.definition ≠ .variant variants) :
      Undeclared types p (.callTypeNoEnum p.name)

/-- The names of a pallet's storage items, in their order. -/
def Pallet.items (p : Pallet) : List String :=
  p.storage.toList.flatMap fun storage => storage.entries.map (·.name)

/-- What the schema of a pallet says is what the pallet declares. -/
structure Describes (types : Registry) (p : Pallet) (schema : PalletSchema) : Prop where
  name : schema.name = p.name
  index : schema.index = p.index
  calls : CallsOf types p.calls schema.calls
  storage : schema.storage = p.items

theorem storageNames_eq_items (p : Pallet) : storageNames p.storage = p.items := by
  unfold storageNames Pallet.items
  cases p.storage with
  | none => rfl
  | some storage => exact (List.append_nil _).symm

section Calls

variable {types : Registry} {p : Pallet}

theorem callSchemas_eq_ok_iff {name : String} {id : Option TypeId} {calls : List CallSchema} :
    callSchemas types name id = .ok calls ↔ CallsOf types id calls := by
  constructor
  · intro h
    unfold callSchemas at h
    split at h
    · cases h
      exact .none
    · split at h
      · cases h
      · next entry hentry =>
        split at h
        · next variants henum =>
          cases h
          exact .enum hentry henum
        · cases h
  · intro h
    cases h with
    | none => rfl
    | enum hentry henum => simp only [callSchemas, Registry.resolve?, hentry, henum]

theorem callSchemas_eq_error_iff {e : Node.Error} :
    callSchemas types p.name p.calls = .error e ↔
      ∃ cause, e = .decode cause ∧ Undeclared types p cause := by
  constructor
  · intro h
    unfold callSchemas at h
    split at h
    · cases h
    · next id hcalls =>
      split at h
      · next hentry =>
        cases h
        exact ⟨_, rfl, .missing hcalls (List.getElem?_eq_none_iff.1 hentry)⟩
      · next entry hentry =>
        split at h
        · cases h
        · next hother =>
          cases h
          exact ⟨_, rfl, .noEnum hcalls hentry hother⟩
  · rintro ⟨cause, rfl, hundeclared⟩
    cases hundeclared with
    | missing hcalls hid =>
      simp only [callSchemas, Registry.resolve?, hcalls, List.getElem?_eq_none_iff.2 hid]
    | @noEnum id entry hcalls hentry hother =>
      simp only [callSchemas, Registry.resolve?, hcalls, hentry]

theorem palletSchema_eq_ok_iff {schema : PalletSchema} :
    palletSchema types p = .ok schema ↔ Describes types p schema := by
  unfold palletSchema
  constructor
  · intro h
    split at h
    · next calls hcalls =>
      cases h
      exact ⟨rfl, rfl, callSchemas_eq_ok_iff.1 hcalls, storageNames_eq_items p⟩
    · cases h
  · rintro ⟨hname, hindex, hcalls, hstorage⟩
    rw [callSchemas_eq_ok_iff.2 hcalls, storageNames_eq_items, ← hname, ← hindex, ← hstorage]

theorem palletSchema_eq_error_iff {e : Node.Error} :
    palletSchema types p = .error e ↔ ∃ cause, e = .decode cause ∧ Undeclared types p cause := by
  rw [← callSchemas_eq_error_iff]
  unfold palletSchema
  cases callSchemas types p.name p.calls with
  | ok calls => exact iff_of_false nofun nofun
  | error failure => constructor <;> intro h <;> cases h <;> rfl

end Calls

/-! ## Lists of pallets -/

/-- The first pallet whose calls are not to be found, and the cause that names it. -/
def FirstUndeclared (types : Registry) (pallets : List Pallet) (cause : Node.AnswerCause) : Prop :=
  ∃ before p after, pallets = before ++ p :: after ∧
    (∀ q ∈ before, ∀ other, ¬Undeclared types q other) ∧ Undeclared types p cause

section Pallets

variable {types : Registry} {pallets : List Pallet}

theorem palletSchemas_eq_ok_iff {schemas : List PalletSchema} :
    palletSchemas types pallets = .ok schemas ↔ List.Forall₂ (Describes types) pallets schemas := by
  induction pallets generalizing schemas with
  | nil =>
    rw [List.forall₂_nil_left_iff]
    constructor <;> intro h <;> cases h <;> rfl
  | cons p rest ih =>
    rw [List.forall₂_cons_left_iff]
    simp only [← ih, ← palletSchema_eq_ok_iff, palletSchemas]
    cases palletSchema types p with
    | error e => exact iff_of_false nofun (by rintro ⟨_, _, ⟨⟩, _⟩)
    | ok schema =>
      cases palletSchemas types rest with
      | error e => exact iff_of_false nofun (by rintro ⟨_, _, _, ⟨⟩, _⟩)
      | ok others =>
        constructor
        · intro h
          cases h
          exact ⟨schema, others, rfl, rfl, rfl⟩
        · rintro ⟨_, _, ⟨⟩, ⟨⟩, rfl⟩
          rfl

theorem exists_describes {schemas : List PalletSchema}
    (h : List.Forall₂ (Describes types) pallets schemas) {p : Pallet} (hmem : p ∈ pallets) :
    ∃ schema, Describes types p schema := by
  induction h with
  | nil => cases hmem
  | cons hfirst _ ih =>
    rcases List.mem_cons.1 hmem with rfl | hrest
    · exact ⟨_, hfirst⟩
    · exact ih hrest

/-- A pallet without its calls has no schema. -/
theorem Undeclared.not_describes {p : Pallet} {cause : Node.AnswerCause}
    (h : Undeclared types p cause) (schema : PalletSchema) : ¬Describes types p schema := by
  intro hdescribes
  have hok := palletSchema_eq_ok_iff.2 hdescribes
  rw [palletSchema_eq_error_iff.2 ⟨cause, rfl, h⟩] at hok
  cases hok

theorem palletSchemas_eq_error_iff {e : Node.Error} :
    palletSchemas types pallets = .error e ↔
      ∃ cause, e = .decode cause ∧ FirstUndeclared types pallets cause := by
  induction pallets with
  | nil =>
    refine iff_of_false nofun ?_
    rintro ⟨_, _, before, p, after, hempty, _⟩
    exact absurd hempty.symm (List.append_ne_nil_of_right_ne_nil _ (List.cons_ne_nil p after))
  | cons p rest ih =>
    simp only [palletSchemas]
    cases hp : palletSchema types p with
    | error failure =>
      obtain ⟨cause, rfl, hundeclared⟩ := palletSchema_eq_error_iff.1 hp
      constructor
      · intro h
        cases h
        exact ⟨cause, rfl, [], p, rest, rfl, nofun, hundeclared⟩
      · rintro ⟨other, rfl, before, q, after, hpallets, hbefore, hq⟩
        -- Nothing stands before the first pallet, so that one is found.
        cases before with
        | nil =>
          obtain ⟨rfl, rfl⟩ := List.cons.inj hpallets
          rw [palletSchema_eq_error_iff.2 ⟨other, rfl, hq⟩] at hp
          cases hp
          rfl
        | cons first others =>
          obtain ⟨rfl, -⟩ := List.cons.inj hpallets
          exact absurd hundeclared (hbefore p List.mem_cons_self cause)
    | ok schema =>
      have hdescribes := palletSchema_eq_ok_iff.1 hp
      have hrest : (∃ cause, e = .decode cause ∧ FirstUndeclared types (p :: rest) cause) ↔
          ∃ cause, e = .decode cause ∧ FirstUndeclared types rest cause := by
        refine exists_congr fun cause => and_congr_right fun _ => ⟨?_, ?_⟩
        · rintro ⟨before, q, after, hpallets, hbefore, hq⟩
          cases before with
          | nil =>
            obtain ⟨rfl, rfl⟩ := List.cons.inj hpallets
            exact absurd hdescribes (hq.not_describes schema)
          | cons first others =>
            obtain ⟨rfl, rfl⟩ := List.cons.inj hpallets
            exact ⟨others, q, after, rfl, (List.forall_mem_cons.1 hbefore).2, hq⟩
        · rintro ⟨before, q, after, rfl, hbefore, hq⟩
          refine ⟨p :: before, q, after, rfl, List.forall_mem_cons.2 ⟨?_, hbefore⟩, hq⟩
          exact fun other hother => hother.not_describes schema hdescribes
      rw [hrest, ← ih]
      cases palletSchemas types rest with
      | error failure => exact Iff.rfl
      | ok others => exact iff_of_false nofun nofun

end Pallets

/-! ## Metadata -/

/-- Metadata as it is sent: its mark, then the version and the body, and whatever follows. -/
def Versioned.sent (v : Versioned) (trailing : Bytes) : Bytes :=
  [0x6d, 0x65, 0x74, 0x61] ++ v.encode ++ trailing

theorem Versioned.sent_eq (v : Versioned) (trailing : Bytes) :
    v.sent trailing = markedCodec.encode (magic, v) ++ trailing := by
  have hmark : Codec.word.encode magic = [0x6d, 0x65, 0x74, 0x61] := by decide
  show _ = Codec.word.encode magic ++ v.encode ++ trailing
  rw [hmark]
  rfl

/-- The schema of metadata that has a written form is that of its pallets. -/
theorem decodeSchema_sent {v : Versioned} (hfits : v.Fits) (trailing : Bytes) :
    decodeSchema (v.sent trailing) = v.pallets.map (⟨v.sent trailing, ·⟩) := by
  have hread := markedCodec_canonical.readsBack (magic, v) trailing ⟨trivial, hfits⟩
  rw [← v.sent_eq trailing] at hread
  simp only [decodeSchema, hread, if_true]
  cases v.pallets <;> rfl

/-- Metadata of which a schema is taken is sent metadata. -/
theorem eq_sent_of_decodeSchema {metadata : Bytes} {schema : RuntimeSchema}
    (h : decodeSchema metadata = .ok schema) : ∃ (v : Versioned) (trailing : Bytes), v.Fits ∧
      metadata = v.sent trailing ∧ v.pallets = .ok schema.pallets := by
  unfold decodeSchema at h
  split at h
  · cases h
  · next mark v trailing hread =>
    obtain ⟨⟨-, hfits⟩, hmetadata⟩ := markedCodec_canonical.read_eq_ok_iff.1 hread
    split at h
    · next hmark =>
      rw [hmark, ← v.sent_eq trailing] at hmetadata
      split at h
      · next hpallets =>
        cases h
        exact ⟨v, trailing, hfits, hmetadata, hpallets⟩
      · cases h
    · cases h

/-- What is taken from metadata is what its pallets declare, or the first one whose calls are not to
be found. -/
structure Extracts (types : Registry) (pallets : List Pallet) (metadata : Bytes) : Prop where
  ok_iff : ∀ schema, decodeSchema metadata = .ok schema ↔
    schema.metadata = metadata ∧ List.Forall₂ (Describes types) pallets schema.pallets
  error_iff : ∀ e, decodeSchema metadata = .error e ↔
    ∃ cause, e = .decode cause ∧ FirstUndeclared types pallets cause
  fails_iff : (∃ e, decodeSchema metadata = .error e) ↔
    ∃ p ∈ pallets, ∃ cause, Undeclared types p cause

/-- If any calls are not to be found, those of one pallet are the first. -/
theorem exists_firstUndeclared {types : Registry} {pallets : List Pallet} {p : Pallet}
    {cause : Node.AnswerCause} (hmem : p ∈ pallets) (h : Undeclared types p cause) :
    ∃ first, FirstUndeclared types pallets first := by
  cases hschemas : palletSchemas types pallets with
  | error e =>
    obtain ⟨first, -, hfirst⟩ := palletSchemas_eq_error_iff.1 hschemas
    exact ⟨first, hfirst⟩
  | ok schemas =>
    obtain ⟨schema, hdescribes⟩ := exists_describes (palletSchemas_eq_ok_iff.1 hschemas) hmem
    exact absurd hdescribes (h.not_describes schema)

theorem extracts_of_pallets {v : Versioned} {types : Registry} {pallets : List Pallet}
    (hfits : v.Fits) (hpallets : v.pallets = palletSchemas types pallets) (trailing : Bytes) :
    Extracts types pallets (v.sent trailing) := by
  have hschema := decodeSchema_sent hfits trailing
  rw [hpallets] at hschema
  have herror : ∀ e, decodeSchema (v.sent trailing) = .error e ↔
      ∃ cause, e = .decode cause ∧ FirstUndeclared types pallets cause := by
    intro e
    rw [hschema, ← palletSchemas_eq_error_iff]
    cases palletSchemas types pallets with
    | error failure => constructor <;> intro h <;> cases h <;> rfl
    | ok schemas => exact iff_of_false nofun nofun
  refine ⟨fun schema => ?_, herror, ?_⟩
  · rw [hschema, ← palletSchemas_eq_ok_iff]
    obtain ⟨metadata, found⟩ := schema
    cases palletSchemas types pallets with
    | error e => exact iff_of_false nofun nofun
    | ok schemas =>
      constructor
      · intro h
        cases h
        exact ⟨rfl, rfl⟩
      · rintro ⟨⟨⟩, ⟨⟩⟩
        rfl
  · simp only [herror]
    constructor
    · rintro ⟨_, cause, -, before, p, after, rfl, -, hp⟩
      exact ⟨p, List.mem_append_right _ List.mem_cons_self, cause, hp⟩
    · rintro ⟨p, hmem, cause, hp⟩
      obtain ⟨first, hfirst⟩ := exists_firstUndeclared hmem hp
      exact ⟨_, first, rfl, hfirst⟩

/-- Two pallets declare the same. -/
structure Pallet.Alike (p q : Pallet) : Prop where
  name : p.name = q.name
  index : p.index = q.index
  calls : p.calls = q.calls
  items : p.items = q.items

theorem palletSchema_congr (types : Registry) {p q : Pallet} (h : p.Alike q) :
    palletSchema types p = palletSchema types q := by
  unfold palletSchema
  rw [storageNames_eq_items, storageNames_eq_items, h.name, h.index, h.calls, h.items]

theorem palletSchemas_congr (types : Registry) {pallets others : List Pallet}
    (h : List.Forall₂ Pallet.Alike pallets others) :
    palletSchemas types pallets = palletSchemas types others := by
  induction h with
  | nil => rfl
  | cons hp _ ih => rw [palletSchemas, palletSchemas, palletSchema_congr types hp, ih]

/-- **Metadata is read for what it declares.** From whatever metadata of either format that has a written
form, with whatever follows it, a schema of what the pallets declare is taken, or the failure of the
first whose calls are not to be found; and both formats give the same for pallets that declare the
same. -/
theorem decodeSchema_faithful :
    (∀ (m : Format14) (trailing : Bytes), Format14.codec.Fits m →
      Extracts m.types m.pallets
        ([0x6d, 0x65, 0x74, 0x61] ++ 14 :: Format14.codec.encode m ++ trailing)) ∧
    (∀ (m : Format15) (trailing : Bytes), Format15.codec.Fits m →
      Extracts m.types m.pallets
        ([0x6d, 0x65, 0x74, 0x61] ++ 15 :: Format15.codec.encode m ++ trailing)) ∧
    ∀ (m : Format14) (n : Format15) (trailing others : Bytes), Format14.codec.Fits m →
      Format15.codec.Fits n → m.types = n.types → List.Forall₂ Pallet.Alike m.pallets n.pallets →
      (decodeSchema ([0x6d, 0x65, 0x74, 0x61] ++ 14 :: Format14.codec.encode m ++ trailing)).map
          (·.pallets) =
        (decodeSchema ([0x6d, 0x65, 0x74, 0x61] ++ 15 :: Format15.codec.encode n ++ others)).map
          (·.pallets) := by
  refine ⟨fun m trailing hfits => ?_, fun m trailing hfits => ?_, ?_⟩
  · exact extracts_of_pallets (v := .format14 m) hfits rfl trailing
  · exact extracts_of_pallets (v := .format15 m) hfits rfl trailing
  · intro m n trailing others hm hn htypes hpallets
    have hleft := decodeSchema_sent (v := .format14 m) hm trailing
    have hright := decodeSchema_sent (v := .format15 n) hn others
    have hsame : (Versioned.format14 m).pallets = (Versioned.format15 n).pallets := by
      show palletSchemas m.types m.pallets = palletSchemas n.types n.pallets
      rw [htypes, palletSchemas_congr n.types hpallets]
    show (decodeSchema ((Versioned.format14 m).sent trailing)).map _ =
      (decodeSchema ((Versioned.format15 n).sent others)).map _
    rw [hleft, hright, hsame]
    cases (Versioned.format15 n).pallets <;> rfl

/-! ### A runtime with two pallets -/

/-- A registry whose second type carries another number. -/
def renumbered : Registry :=
  [⟨0, [], [], .primitive .u8, []⟩,
    ⟨7, ["Call"], [], .variant [⟨"set", [⟨some "key", 0, none, []⟩], 3, []⟩, ⟨"delete", [], 4, []⟩],
      []⟩]

def systemPallet : Pallet :=
  ⟨"System", some ⟨"System", [⟨"Account", .default, .map [.blake2b128Concat] 0 0, [0], []⟩]⟩, none,
    none, [], none, 0, []⟩

def callingPallet : Pallet := ⟨"Template", none, some 1, none, [], none, 11, []⟩

def renumbered14 : Format14 := ⟨renumbered, [systemPallet, callingPallet], 0, 4, [], 0⟩

def renumbered15 : Format15 :=
  ⟨renumbered, [systemPallet, { callingPallet with docs := ["Calls."] }], 4, 0, 0, 0, 0, [], 0, [],
    ⟨0, 0, 0⟩, []⟩

def renumberedPallets : List PalletSchema :=
  [⟨"System", 0, [], ["Account"]⟩, ⟨"Template", 11, [⟨"set", 3⟩, ⟨"delete", 4⟩], []⟩]

theorem comments_fits_nil : comments.Fits [] := ⟨by decide, nofun⟩

theorem renumbered_fits : Registry.codec.Fits renumbered := by
  have hfield : Field.codec.Fits ⟨some "key", 0, none, []⟩ := by
    refine ⟨?_, trivial, nofun, comments_fits_nil⟩
    rintro _ ⟨⟩
    decide
  have hset : Variant.codec.Fits ⟨"set", [⟨some "key", 0, none, []⟩], 3, []⟩ :=
    ⟨by decide, ⟨by decide, List.forall_mem_singleton.2 hfield⟩, trivial, comments_fits_nil⟩
  have hdelete : Variant.codec.Fits ⟨"delete", [], 4, []⟩ :=
    ⟨by decide, ⟨by decide, nofun⟩, trivial, comments_fits_nil⟩
  have hvariants : ∀ v ∈ [⟨"set", [⟨some "key", 0, none, []⟩], 3, []⟩, ⟨"delete", [], 4, []⟩],
      Variant.codec.Fits v :=
    List.forall_mem_cons.2 ⟨hset, List.forall_mem_singleton.2 hdelete⟩
  have hbyte : TypeEntry.codec.Fits ⟨0, [], [], .primitive .u8, []⟩ :=
    ⟨trivial, ⟨by decide, nofun⟩, ⟨by decide, nofun⟩, trivial, comments_fits_nil⟩
  have hpath : Codec.text.list.Fits ["Call"] :=
    ⟨by decide, List.forall_mem_singleton.2 (by decide)⟩
  refine ⟨by decide, List.forall_mem_cons.2 ⟨hbyte, List.forall_mem_singleton.2 ?_⟩⟩
  exact ⟨trivial, hpath, ⟨by decide, nofun⟩, ⟨by decide, hvariants⟩, comments_fits_nil⟩

theorem systemPallet_fits : Pallet.bodyCodec.Fits systemPallet.body := by
  have hentry : StorageEntry.codec.Fits
      ⟨"Account", .default, .map [.blake2b128Concat] 0 0, [0], []⟩ :=
    ⟨by decide, trivial, ⟨⟨by decide, List.forall_mem_singleton.2 trivial⟩, trivial, trivial⟩,
      by decide, comments_fits_nil⟩
  refine ⟨by decide, ?_, nofun, nofun, ⟨by decide, nofun⟩, nofun, trivial⟩
  rintro _ ⟨⟩
  exact ⟨by decide, by decide, List.forall_mem_singleton.2 hentry⟩

theorem callingPallet_fits : Pallet.bodyCodec.Fits callingPallet.body :=
  ⟨by decide, nofun, fun _ _ => trivial, nofun, ⟨by decide, nofun⟩, nofun, trivial⟩

theorem renumbered14_fits : Format14.codec.Fits renumbered14 := by
  have hpallets : Pallet.codec14.list.Fits renumbered14.pallets :=
    ⟨by decide, List.forall_mem_cons.2 ⟨⟨systemPallet_fits, rfl⟩,
      List.forall_mem_singleton.2 ⟨callingPallet_fits, rfl⟩⟩⟩
  exact ⟨renumbered_fits, hpallets, trivial, trivial, ⟨by decide, nofun⟩, trivial⟩

theorem renumbered15_fits : Format15.codec.Fits renumbered15 := by
  have hdocs : comments.Fits ["Calls."] := ⟨by decide, List.forall_mem_singleton.2 (by decide)⟩
  have hpallets : Pallet.codec15.list.Fits renumbered15.pallets :=
    ⟨by decide, List.forall_mem_cons.2 ⟨⟨systemPallet_fits, comments_fits_nil⟩,
      List.forall_mem_singleton.2 ⟨callingPallet_fits, hdocs⟩⟩⟩
  exact ⟨renumbered_fits, hpallets, trivial, trivial, trivial, trivial, trivial, ⟨by decide, nofun⟩,
    trivial, ⟨by decide, nofun⟩, ⟨trivial, trivial, trivial⟩, by decide, nofun⟩

theorem decodeSchema_faithful_renumbered :
    Extracts renumbered14.types renumbered14.pallets
        ([0x6d, 0x65, 0x74, 0x61] ++ 14 :: Format14.codec.encode renumbered14 ++ [1, 2]) ∧
      Extracts renumbered15.types renumbered15.pallets
        ([0x6d, 0x65, 0x74, 0x61] ++ 15 :: Format15.codec.encode renumbered15 ++ []) ∧
      (decodeSchema ([0x6d, 0x65, 0x74, 0x61] ++ 14 :: Format14.codec.encode renumbered14 ++
          [1, 2])).map (·.pallets) =
        (decodeSchema ([0x6d, 0x65, 0x74, 0x61] ++ 15 :: Format15.codec.encode renumbered15 ++
          [])).map (·.pallets) ∧
      List.Forall₂ (Describes renumbered) renumbered14.pallets renumberedPallets := by
  have hm := renumbered14_fits
  have hn := renumbered15_fits
  have halike : List.Forall₂ Pallet.Alike renumbered14.pallets renumbered15.pallets :=
    .cons ⟨rfl, rfl, rfl, rfl⟩ (.cons ⟨rfl, rfl, rfl, rfl⟩ .nil)
  refine ⟨decodeSchema_faithful.1 renumbered14 [1, 2] hm,
    decodeSchema_faithful.2.1 renumbered15 [] hn,
    decodeSchema_faithful.2.2 renumbered14 renumbered15 [1, 2] [] hm hn rfl halike, ?_⟩
  refine .cons ⟨rfl, rfl, .none, rfl⟩ (.cons ⟨rfl, rfl, ?_, rfl⟩ .nil)
  exact @CallsOf.enum renumbered 1 _ _ rfl rfl

/-! ## Metadata that ends too early -/

/-- **Metadata is whole or refused.** The metadata of which a schema is taken ends somewhere: what follows
that place does not matter, and what stops before it does not decode, whatever it would declare. -/
theorem decodeSchema_whole {metadata : Bytes} {schema : RuntimeSchema}
    (h : decodeSchema metadata = .ok schema) :
    ∃ length ≤ metadata.length,
      (∀ longer, metadata.take length <+: longer →
        decodeSchema longer = .ok ⟨longer, schema.pallets⟩) ∧
      ∀ shorter, shorter <+: metadata.take length → shorter ≠ metadata.take length →
        decodeSchema shorter = .error (.decode .unreadableMetadata) := by
  obtain ⟨v, trailing, hfits, rfl, hpallets⟩ := eq_sent_of_decodeSchema h
  have hwhole : (v.sent trailing).take (v.sent []).length = v.sent [] := by
    rw [v.sent_eq trailing, v.sent_eq [], List.append_nil, List.take_left]
  refine ⟨(v.sent []).length, ?_, ?_, ?_⟩
  · rw [v.sent_eq trailing, v.sent_eq [], List.append_nil, List.length_append]
    exact Nat.le_add_right _ _
  · rw [hwhole]
    rintro _ ⟨more, rfl⟩
    have hlonger : v.sent [] ++ more = v.sent more := by
      rw [v.sent_eq more, v.sent_eq [], List.append_nil]
    rw [hlonger, decodeSchema_sent hfits more, hpallets]
    rfl
  · rw [hwhole, v.sent_eq [], List.append_nil]
    intro shorter hbegins hcut
    have hmarked : markedCodec.Fits (magic, v) := ⟨trivial, hfits⟩
    obtain ⟨e, hread⟩ := markedCodec_canonical.read_eq_error_of_cut hmarked hbegins hcut
    simp only [decodeSchema, hread]

theorem decodeSchema_whole_renumbered :
    let metadata := (Versioned.format14 renumbered14).sent [1, 2]
    decodeSchema metadata = .ok ⟨metadata, renumberedPallets⟩ ∧
      ∃ length ≤ metadata.length,
        (∀ longer, metadata.take length <+: longer →
          decodeSchema longer = .ok ⟨longer, renumberedPallets⟩) ∧
        ∀ shorter, shorter <+: metadata.take length → shorter ≠ metadata.take length →
          decodeSchema shorter = .error (.decode .unreadableMetadata) := by
  intro metadata
  have hschema : decodeSchema metadata = .ok ⟨metadata, renumberedPallets⟩ :=
    decodeSchema_sent (v := .format14 renumbered14) renumbered14_fits [1, 2]
  exact ⟨hschema, decodeSchema_whole hschema⟩

end MetaLedger.Metadata
