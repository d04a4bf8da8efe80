import MetaLedger.Metadata.Format
import MetaLedger.Proofs.Scale.Composite

/-!
# Metadata has one written form

Everything that stands in metadata, from the fields of a type to the mark in front, is read exactly
if it was written (`markedCodec_canonical`). Records follow from their fields; what takes an argument
are the alternatives, of which each has a mark of its own.
-/

namespace MetaLedger.Metadata

open Scale (Codec Reader)
open Scale.Codec.Canonical (map_eq_ok_iff)

/-! ## Types -/

theorem typeId_canonical : typeId.Canonical := Codec.compactWord_canonical

theorem comments_canonical : comments.Canonical := .list Codec.text_canonical

theorem Field.codec_canonical : Field.codec.Canonical := by
  refine .iso ?_ (fun _ => rfl) fun _ => rfl
  refine .pair (.option Codec.text_canonical) (.pair typeId_canonical ?_)
  exact .pair (.option Codec.text_canonical) comments_canonical

theorem Variant.codec_canonical : Variant.codec.Canonical := by
  refine .iso ?_ (fun _ => rfl) fun _ => rfl
  refine .pair Codec.text_canonical (.pair (.list Field.codec_canonical) ?_)
  exact .pair Codec.byte_canonical comments_canonical

theorem Primitive.codec_canonical : Primitive.codec.Canonical := by
  refine Codec.Exact.canonical (fun input kind rest h => ?_) fun kind rest _ => ?_
  · obtain ⟨mark, middle, rfl, hread⟩ := Reader.byte_bind_eq_ok_iff.1 h
    cases hfound : Primitive.all[mark.toNat]? with
    | none =>
      rw [hfound] at hread
      cases hread
    | some found =>
      rw [hfound] at hread
      cases hread
      rw [Scale.mark_eq_of_getElem? (by decide) hfound]
      exact ⟨trivial, rfl⟩
  · cases kind <;> rfl

namespace TypeDef

theorem compositeCodec_canonical : compositeCodec.Canonical := .list Field.codec_canonical

theorem variantCodec_canonical : variantCodec.Canonical := .list Variant.codec_canonical

theorem arrayCodec_canonical : arrayCodec.Canonical := .pair Codec.word_canonical typeId_canonical

theorem tupleCodec_canonical : tupleCodec.Canonical := .list typeId_canonical

theorem bitSequenceCodec_canonical : bitSequenceCodec.Canonical :=
  .pair typeId_canonical typeId_canonical

theorem codec_exact : codec.Exact := by
  intro input d rest h
  obtain ⟨mark, middle, rfl, hread⟩ := Reader.byte_bind_eq_ok_iff.1 h
  split at hread
  · obtain ⟨fields, hfits, rfl, rfl⟩ := (map_eq_ok_iff compositeCodec_canonical).1 hread
    exact ⟨hfits, rfl⟩
  · obtain ⟨variants, hfits, rfl, rfl⟩ := (map_eq_ok_iff variantCodec_canonical).1 hread
    exact ⟨hfits, rfl⟩
  · obtain ⟨item, -, rfl, rfl⟩ := (map_eq_ok_iff typeId_canonical).1 hread
    exact ⟨trivial, rfl⟩
  · obtain ⟨⟨length, item⟩, -, rfl, rfl⟩ := (map_eq_ok_iff arrayCodec_canonical).1 hread
    exact ⟨trivial, rfl⟩
  · obtain ⟨items, hfits, rfl, rfl⟩ := (map_eq_ok_iff tupleCodec_canonical).1 hread
    exact ⟨hfits, rfl⟩
  · obtain ⟨kind, -, rfl, rfl⟩ := (map_eq_ok_iff Primitive.codec_canonical).1 hread
    exact ⟨trivial, rfl⟩
  · obtain ⟨inner, -, rfl, rfl⟩ := (map_eq_ok_iff typeId_canonical).1 hread
    exact ⟨trivial, rfl⟩
  · obtain ⟨⟨store, order⟩, -, rfl, rfl⟩ := (map_eq_ok_iff bitSequenceCodec_canonical).1 hread
    exact ⟨trivial, rfl⟩
  · cases hread

theorem codec_readsBack : codec.ReadsBack := by
  intro d rest hfits
  cases d with
  | composite fields =>
    exact (map_eq_ok_iff compositeCodec_canonical).2 ⟨fields, hfits, rfl, rfl⟩
  | variant variants =>
    exact (map_eq_ok_iff variantCodec_canonical).2 ⟨variants, hfits, rfl, rfl⟩
  | sequence item =>
    exact (map_eq_ok_iff typeId_canonical).2 ⟨item, trivial, rfl, rfl⟩
  | array length item =>
    exact (map_eq_ok_iff arrayCodec_canonical).2 ⟨(length, item), ⟨trivial, trivial⟩, rfl, rfl⟩
  | tuple items =>
    exact (map_eq_ok_iff tupleCodec_canonical).2 ⟨items, hfits, rfl, rfl⟩
  | primitive kind =>
    exact (map_eq_ok_iff Primitive.codec_canonical).2 ⟨kind, trivial, rfl, rfl⟩
  | compact inner =>
    exact (map_eq_ok_iff typeId_canonical).2 ⟨inner, trivial, rfl, rfl⟩
  | bitSequence store order =>
    exact (map_eq_ok_iff bitSequenceCodec_canonical).2
      ⟨(store, order), ⟨trivial, trivial⟩, rfl, rfl⟩

theorem codec_canonical : codec.Canonical := Codec.Exact.canonical codec_exact codec_readsBack

end TypeDef

theorem TypeParameter.codec_canonical : TypeParameter.codec.Canonical :=
  .iso (.pair Codec.text_canonical (.option typeId_canonical)) (fun _ => rfl) fun _ => rfl

theorem TypeEntry.codec_canonical : TypeEntry.codec.Canonical := by
  refine .iso ?_ (fun _ => rfl) fun _ => rfl
  refine .pair typeId_canonical (.pair (.list Codec.text_canonical) ?_)
  refine .pair (.list TypeParameter.codec_canonical) ?_
  exact .pair TypeDef.codec_canonical comments_canonical

theorem Registry.codec_canonical : Registry.codec.Canonical := .list TypeEntry.codec_canonical

/-! ## Pallets -/

theorem Modifier.codec_canonical : Modifier.codec.Canonical := by
  refine Codec.Exact.canonical (fun input modifier rest h => ?_) fun modifier rest _ => ?_
  · obtain ⟨mark, middle, rfl, hread⟩ := Reader.byte_bind_eq_ok_iff.1 h
    split at hread <;> cases hread <;> exact ⟨trivial, rfl⟩
  · cases modifier <;> rfl

theorem Hasher.codec_canonical : Hasher.codec.Canonical := by
  refine Codec.Exact.canonical (fun input hasher rest h => ?_) fun hasher rest _ => ?_
  · obtain ⟨mark, middle, rfl, hread⟩ := Reader.byte_bind_eq_ok_iff.1 h
    cases hfound : Hasher.all[mark.toNat]? with
    | none =>
      rw [hfound] at hread
      cases hread
    | some found =>
      rw [hfound] at hread
      cases hread
      rw [Scale.mark_eq_of_getElem? (by decide) hfound]
      exact ⟨trivial, rfl⟩
  · cases hasher <;> rfl

namespace StorageType

theorem mapCodec_canonical : mapCodec.Canonical :=
  .pair (.list Hasher.codec_canonical) (.pair typeId_canonical typeId_canonical)

theorem codec_canonical : codec.Canonical := by
  refine Codec.Exact.canonical (fun input type rest h => ?_) fun type rest hfits => ?_
  · obtain ⟨mark, middle, rfl, hread⟩ := Reader.byte_bind_eq_ok_iff.1 h
    split at hread
    · obtain ⟨value, -, rfl, rfl⟩ := (map_eq_ok_iff typeId_canonical).1 hread
      exact ⟨trivial, rfl⟩
    · obtain ⟨⟨hashers, key, value⟩, hfits, rfl, rfl⟩ := (map_eq_ok_iff mapCodec_canonical).1 hread
      exact ⟨hfits, rfl⟩
    · cases hread
  · cases type with
    | plain value =>
      exact (map_eq_ok_iff typeId_canonical).2 ⟨value, trivial, rfl, rfl⟩
    | map hashers key value =>
      exact (map_eq_ok_iff mapCodec_canonical).2 ⟨(hashers, key, value), hfits, rfl, rfl⟩

end StorageType

theorem StorageEntry.codec_canonical : StorageEntry.codec.Canonical := by
  refine .iso ?_ (fun _ => rfl) fun _ => rfl
  refine .pair Codec.text_canonical (.pair Modifier.codec_canonical ?_)
  exact .pair StorageType.codec_canonical (.pair Codec.bytes_canonical comments_canonical)

theorem PalletStorage.codec_canonical : PalletStorage.codec.Canonical :=
  .iso (.pair Codec.text_canonical (.list StorageEntry.codec_canonical)) (fun _ => rfl) fun _ => rfl

theorem Constant.codec_canonical : Constant.codec.Canonical := by
  refine .iso ?_ (fun _ => rfl) fun _ => rfl
  refine .pair Codec.text_canonical (.pair typeId_canonical ?_)
  exact .pair Codec.bytes_canonical comments_canonical

namespace Pallet

theorem bodyCodec_canonical : bodyCodec.Canonical := by
  refine .pair Codec.text_canonical (.pair (.option PalletStorage.codec_canonical) ?_)
  refine .pair (.option typeId_canonical) (.pair (.option typeId_canonical) ?_)
  exact .pair (.list Constant.codec_canonical) (.pair (.option typeId_canonical) Codec.byte_canonical)

/-- Format 14 has no place for comments, and reads none. -/
theorem codec14_canonical : codec14.Canonical := by
  intro input p rest
  show (bodyCodec.iso (ofBody · []) body).read input = _ ↔
    (bodyCodec.Fits p.body ∧ p.docs = []) ∧ input = bodyCodec.encode p.body ++ rest
  constructor
  · intro h
    unfold Codec.iso at h
    cases hbody : bodyCodec.read input with
    | error e =>
      simp only [hbody] at h
      cases h
    | ok result =>
      obtain ⟨found, middle⟩ := result
      simp only [hbody] at h
      cases h
      obtain ⟨hfits, rfl⟩ := (Codec.Canonical.read_eq_ok_iff bodyCodec_canonical).1 hbody
      exact ⟨⟨hfits, rfl⟩, rfl⟩
  · rintro ⟨⟨hfits, hdocs⟩, rfl⟩
    have hbody := Codec.Canonical.readsBack bodyCodec_canonical p.body rest hfits
    obtain ⟨name, storage, calls, event, constants, error, index, docs⟩ := p
    obtain rfl : docs = [] := hdocs
    simp only [Codec.iso, hbody]
    rfl

theorem codec15_canonical : codec15.Canonical :=
  .iso (.pair bodyCodec_canonical comments_canonical) (fun _ => rfl) fun _ => rfl

end Pallet

/-! ## Formats -/

theorem SignedExtension.codec_canonical : SignedExtension.codec.Canonical := by
  refine .iso ?_ (fun _ => rfl) fun _ => rfl
  exact .pair Codec.text_canonical (.pair typeId_canonical typeId_canonical)

theorem Format14.codec_canonical : Format14.codec.Canonical := by
  refine .iso ?_ (fun _ => rfl) fun _ => rfl
  refine .pair Registry.codec_canonical (.pair (.list Pallet.codec14_canonical) ?_)
  refine .pair typeId_canonical (.pair Codec.byte_canonical ?_)
  exact .pair (.list SignedExtension.codec_canonical) typeId_canonical

theorem ApiParameter.codec_canonical : ApiParameter.codec.Canonical :=
  .iso (.pair Codec.text_canonical typeId_canonical) (fun _ => rfl) fun _ => rfl

theorem ApiMethod.codec_canonical : ApiMethod.codec.Canonical := by
  refine .iso ?_ (fun _ => rfl) fun _ => rfl
  refine .pair Codec.text_canonical (.pair (.list ApiParameter.codec_canonical) ?_)
  exact .pair typeId_canonical comments_canonical

theorem Api.codec_canonical : Api.codec.Canonical := by
  refine .iso ?_ (fun _ => rfl) fun _ => rfl
  exact .pair Codec.text_canonical (.pair (.list ApiMethod.codec_canonical) comments_canonical)

theorem OuterEnums.codec_canonical : OuterEnums.codec.Canonical :=
  .iso (.pair typeId_canonical (.pair typeId_canonical typeId_canonical)) (fun _ => rfl) fun _ => rfl

theorem CustomValue.codec_canonical : CustomValue.codec.Canonical := by
  refine .iso ?_ (fun _ => rfl) fun _ => rfl
  exact .pair Codec.text_canonical (.pair typeId_canonical Codec.bytes_canonical)

theorem Format15.codec_canonical : Format15.codec.Canonical := by
  refine .iso ?_ (fun _ => rfl) fun _ => rfl
  refine .pair Registry.codec_canonical (.pair (.list Pallet.codec15_canonical) ?_)
  refine .pair Codec.byte_canonical (.pair typeId_canonical ?_)
  refine .pair typeId_canonical (.pair typeId_canonical (.pair typeId_canonical ?_))
  refine .pair (.list SignedExtension.codec_canonical) (.pair typeId_canonical ?_)
  refine .pair (.list Api.codec_canonical) (.pair OuterEnums.codec_canonical ?_)
  exact .list CustomValue.codec_canonical

namespace Versioned

theorem codec_exact : codec.Exact := by
  intro input v rest h
  obtain ⟨version, middle, rfl, hread⟩ := Reader.byte_bind_eq_ok_iff.1 h
  split at hread
  · next hmark =>
    obtain ⟨m, hfits, rfl, rfl⟩ := (map_eq_ok_iff Format14.codec_canonical).1 hread
    rw [hmark]
    exact ⟨hfits, rfl⟩
  · split at hread
    · next hmark =>
      obtain ⟨m, hfits, rfl, rfl⟩ := (map_eq_ok_iff Format15.codec_canonical).1 hread
      rw [hmark]
      exact ⟨hfits, rfl⟩
    · split at hread
      · next hrange =>
        obtain ⟨body, hfits, rfl, rfl⟩ := (map_eq_ok_iff Codec.bytes_canonical).1 hread
        exact ⟨⟨hrange.1, hrange.2, hfits⟩, rfl⟩
      · cases hread

theorem codec_readsBack : codec.ReadsBack := by
  intro v rest hfits
  cases v with
  | format14 m =>
    exact (map_eq_ok_iff Format14.codec_canonical).2 ⟨m, hfits, rfl, rfl⟩
  | format15 m =>
    exact (map_eq_ok_iff Format15.codec_canonical).2 ⟨m, hfits, rfl, rfl⟩
  | earlier version body =>
    obtain ⟨hleast, hbelow, hshort⟩ := hfits
    have hnot14 : version ≠ 14 := fun heq => absurd hbelow (by rw [heq]; decide)
    have hnot15 : version ≠ 15 := fun heq => absurd hbelow (by rw [heq]; decide)
    refine Reader.byte_bind_eq_ok_iff.2 ⟨version, _, rfl, ?_⟩
    rw [if_neg hnot14, if_neg hnot15, if_pos ⟨hleast, hbelow⟩]
    exact (map_eq_ok_iff Codec.bytes_canonical).2 ⟨body, hshort, rfl, rfl⟩

theorem codec_canonical : codec.Canonical := Codec.Exact.canonical codec_exact codec_readsBack

end Versioned

theorem markedCodec_canonical : markedCodec.Canonical :=
  .pair Codec.word_canonical Versioned.codec_canonical

end MetaLedger.Metadata
