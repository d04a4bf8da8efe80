import MetaLedger.Proofs.Call
import MetaLedger.Proofs.Extrinsic
import MetaLedger.Proofs.Scale.Composite

/-!
# Whole inputs are written forms

Byte sequences, the arguments of calls and stored records are decoded from inputs that hold nothing
else. Each of these decoders is a canonical codec that is asked to leave nothing over (`takes`), so it
takes the written forms of the values that fit and no others, and of two inputs that it takes neither
is the beginning of the other. The arguments of a removal are those of no other call, since the others
have one part more (`encodeArguments_ne_of_delete`).
-/

namespace MetaLedger

open Scale (Codec)

/-- A decoder of whole inputs takes the written forms of the values that fit, and nothing else. -/
structure Takes {α ε : Type} (decode : Bytes → Except ε α) (Fits : α → Prop)
    (encode : α → Bytes) : Prop where
  ok_iff : ∀ input x, decode input = .ok x ↔ Fits x ∧ input = encode x
  /-- No input that is taken goes on to be another one. -/
  eq_of_prefix : ∀ input longer x y, decode input = .ok x → decode longer = .ok y →
    input <+: longer → input = longer

/-- What a canonical codec reads with nothing left over. -/
theorem takes {α ε : Type} {c : Codec α} (hc : c.Canonical) {decode : Bytes → Except ε α}
    (hdecode : ∀ input x, decode input = .ok x ↔ c.read input = .ok (x, [])) :
    Takes decode c.Fits c.encode := by
  have hok : ∀ input x, decode input = .ok x ↔ c.Fits x ∧ input = c.encode x := by
    intro input x
    rw [hdecode, hc.read_eq_ok_iff, List.append_nil]
  refine ⟨hok, fun input longer x y hx hy hbegins => ?_⟩
  obtain ⟨hfits, rfl⟩ := (hok input x).1 hx
  obtain ⟨hfits', rfl⟩ := (hok longer y).1 hy
  rw [hc.eq_of_prefix hfits hfits' hbegins]

/-! ## Byte sequences and records -/

theorem Scale.decodeBytes_eq_ok_iff_read {input b : Bytes} :
    Scale.decodeBytes input = .ok b ↔ Codec.bytes.read input = .ok (b, []) := by
  rw [Scale.decodeBytes_eq_ok_iff, Codec.bytes_canonical.read_eq_ok_iff, List.append_nil]
  rfl

theorem Record.codec_canonical : Record.codec.Canonical := by
  have howner : AccountId.codec.Canonical := AccountId.codec_exact.canonical AccountId.codec_readsBack
  exact ((Codec.bytes_canonical.field _).pair (howner.field _)).iso (fun _ => rfl) fun _ => rfl

theorem Record.decode_eq_ok_iff_read {input : Bytes} {r : Record} :
    Record.decode input = .ok r ↔ codec.read input = .ok (r, []) := by
  unfold Record.decode
  cases codec.read input with
  | error e => exact iff_of_false nofun nofun
  | ok result =>
    obtain ⟨found, rest⟩ := result
    cases rest with
    | nil => constructor <;> intro h <;> cases h <;> rfl
    | cons first others => exact iff_of_false nofun nofun

/-! ## Arguments of calls -/

namespace Call

/-- The arguments of the calls of a kind. -/
def argumentsCodec (kind : CallKind) : Codec Call :=
  ⟨encodeArguments, arguments kind, fun c => c.kind = kind ∧ c.Short⟩

theorem argumentsCodec_canonical (kind : CallKind) : (argumentsCodec kind).Canonical := by
  intro input c rest
  show arguments kind input = _ ↔ (c.kind = kind ∧ c.Short) ∧ input = c.encodeArguments ++ rest
  rw [arguments_eq_ok_iff, and_assoc]

theorem decodeArguments_eq_ok_iff_read {kind : CallKind} {input : Bytes} {c : Call} :
    decodeArguments kind input = .ok c ↔ (argumentsCodec kind).read input = .ok (c, []) := by
  rw [decodeArguments_eq_ok_iff, (argumentsCodec_canonical kind).read_eq_ok_iff, List.append_nil,
    ← and_assoc]
  rfl

/-- The calls that are no removals have one part more. -/
theorem encodeArguments_ne_of_delete {c d : Call} (hc : c.Short) (hd : d.Short)
    (hdelete : c.kind = .delete) (hother : d.kind ≠ .delete) :
    c.encodeArguments ≠ d.encodeArguments := by
  intro h
  have hthree : ∃ data, d.encodeArguments =
      Scale.encodeBytes d.ns ++ (Scale.encodeBytes d.key ++ Scale.encodeBytes data) := by
    cases d with
    | set ns key data | update ns key data => exact ⟨data, List.append_assoc _ _ _⟩
    | delete ns key => exact absurd rfl hother
  have htwo : c.encodeArguments = Scale.encodeBytes c.ns ++ Scale.encodeBytes c.key := by
    cases c with
    | delete ns key => rfl
    | set ns key data | update ns key data => cases hdelete
  obtain ⟨data, hdata⟩ := hthree
  rw [htwo, hdata] at h
  obtain ⟨-, hkeys⟩ := Scale.encodeBytes_append_inj hc.names.1 hd.names.1 h
  rw [← List.append_nil (Scale.encodeBytes c.key)] at hkeys
  obtain ⟨-, hnil⟩ := Scale.encodeBytes_append_inj hc.names.2 hd.names.2 hkeys
  exact Scale.encodeBytes_ne_nil data hnil.symm

/-- What is written for a removal is not taken for another call, nor the other way round. -/
theorem decodeArguments_of_other_kind {c : Call} {kind : CallKind} (hc : c.Short)
    (hkinds : c.kind = .delete ↔ kind ≠ .delete) :
    ∃ e, decodeArguments kind c.encodeArguments = .error e := by
  cases hread : decodeArguments kind c.encodeArguments with
  | error e => exact ⟨e, rfl⟩
  | ok d =>
    obtain ⟨rfl, hd, hsame⟩ := decodeArguments_eq_ok_iff.1 hread
    by_cases hdelete : c.kind = .delete
    · exact absurd hsame (encodeArguments_ne_of_delete hc hd hdelete (hkinds.1 hdelete))
    · have hother : d.kind = .delete := Decidable.not_not.1 fun hnot => hdelete (hkinds.2 hnot)
      exact absurd hsame.symm (encodeArguments_ne_of_delete hd hc hother hdelete)

/-- Arguments do not say whether a record is to be new. -/
theorem decodeArguments_set_iff_update {input ns key data : Bytes} :
    decodeArguments .set input = .ok (.set ns key data) ↔
      decodeArguments .update input = .ok (.update ns key data) := by
  rw [decodeArguments_eq_ok_iff, decodeArguments_eq_ok_iff]
  constructor
  · rintro ⟨-, hshort, hinput⟩
    exact ⟨rfl, hshort, hinput⟩
  · rintro ⟨-, hshort, hinput⟩
    exact ⟨rfl, hshort, hinput⟩

end Call

/-- **Whole inputs are written forms.** Each decoder of whole inputs takes what is written for a value
that fits, and no other input. Arguments are told apart by whether the call is a removal, and by nothing
else. -/
theorem wholeInputs_written :
    Takes Scale.decodeBytes (fun b => b.length < UInt32.size) Scale.encodeBytes ∧
    (∀ kind, Takes (Call.decodeArguments kind) (fun c => c.kind = kind ∧ c.Short)
      Call.encodeArguments) ∧
    Takes Record.decode (fun r => r.data.length < UInt32.size) Record.encode ∧
    (∀ (c : Call) (kind : CallKind), c.Short → (c.kind = .delete ↔ kind ≠ .delete) →
      ∃ e, Call.decodeArguments kind c.encodeArguments = .error e) ∧
    ∀ input ns key data, Call.decodeArguments .set input = .ok (.set ns key data) ↔
      Call.decodeArguments .update input = .ok (.update ns key data) := by
  refine ⟨takes Codec.bytes_canonical fun _ _ => Scale.decodeBytes_eq_ok_iff_read, ?_, ?_, ?_, ?_⟩
  · intro kind
    exact takes (Call.argumentsCodec_canonical kind) fun _ _ => Call.decodeArguments_eq_ok_iff_read
  · obtain ⟨hok, hbegins⟩ := takes Record.codec_canonical fun _ _ => Record.decode_eq_ok_iff_read
    refine ⟨fun input r => ?_, hbegins⟩
    have hfits : Record.codec.Fits r ↔ r.data.length < UInt32.size := and_iff_left trivial
    rw [hok, hfits]
    rfl
  · intro c kind hshort hkinds
    exact Call.decodeArguments_of_other_kind hshort hkinds
  · intro input ns key data
    exact Call.decodeArguments_set_iff_update

/-- The arguments of a removal, which are no insertion. -/
theorem wholeInputs_written_removal :
    let c : Call := .delete [7] [1, 2]
    c.Short ∧ (c.kind = .delete ↔ CallKind.set ≠ .delete) ∧
      (∃ e, Call.decodeArguments .set c.encodeArguments = .error e) ∧
      Call.decodeArguments .delete c.encodeArguments = .ok c := by
  intro c
  have hshort : c.Short := ⟨by decide, by decide⟩
  have hkinds : c.kind = .delete ↔ CallKind.set ≠ .delete := by decide
  refine ⟨hshort, hkinds, wholeInputs_written.2.2.2.1 c .set hshort hkinds, ?_⟩
  exact ((wholeInputs_written.2.1 .delete).ok_iff c.encodeArguments c).2 ⟨⟨rfl, hshort⟩, rfl⟩

end MetaLedger
