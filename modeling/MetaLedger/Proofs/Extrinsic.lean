import MetaLedger.Extrinsic
import MetaLedger.Proofs.Address

/-!
# One written form for each transaction

What is read as a transaction is what the transaction is written as, and what a transaction is written
as is read back, if its call has a position and its length can be announced (`decode_eq_ok_iff_encode`).
The call stands last and without a length: it is what remains once the fields before it are read,
so all that has to be known of these is that they are exact and read back.
-/

namespace MetaLedger

open Scale (encodeCompact)

/-! ## Fields -/

theorem AccountId.codec_exact : AccountId.codec.Exact :=
  ((Scale.Codec.fixed_exact 32).field _).iso fun _ => rfl

namespace Era

theorem codec_readsBack : codec.ReadsBack := by
  rintro ⟨⟩ rest -
  rfl

theorem codec_exact : codec.Exact := by
  intro input x rest h
  obtain ⟨mark, middle, hmark, hera⟩ := Scale.Reader.bind_eq_ok_iff.1 h
  have hbyte : Scale.Reader.byte input = .ok (mark, middle) := by
    unfold Scale.Reader.inside at hmark
    cases hread : Scale.Reader.byte input with
    | error e =>
      rw [hread] at hmark
      cases hmark
    | ok result =>
      rw [hread] at hmark
      exact hmark
  obtain rfl := Scale.Reader.byte_eq_ok_iff.1 hbyte
  split at hera
  · cases hera
    exact ⟨trivial, rfl⟩
  · cases hera

end Era

namespace Extra

theorem codec_readsBack : codec.ReadsBack := by
  refine Scale.Codec.ReadsBack.iso ?_ fun _ => rfl
  refine (Era.codec_readsBack.field _).pair ?_
  exact (Scale.Codec.compactWord_readsBack.field _).pair (Scale.Codec.compactWide_readsBack.field _)

theorem codec_exact : codec.Exact := by
  refine Scale.Codec.Exact.iso ?_ fun _ => rfl
  refine (Era.codec_exact.field _).pair ?_
  exact (Scale.Codec.compactWord_exact.field _).pair (Scale.Codec.compactWide_exact.field _)

theorem fits (x : Extra) : codec.Fits x := ⟨trivial, trivial, trivial⟩

theorem encode_eq (x : Extra) :
    x.encode = 0 :: (encodeCompact x.nonce.toNat ++ encodeCompact x.tip.toNat) := rfl

end Extra

/-! ## Reading a transaction -/

namespace Extrinsic

theorem signatureCodec_readsBack : signatureCodec.ReadsBack :=
  (Scale.Codec.fixed_readsBack 64).field _

theorem signatureCodec_exact : signatureCodec.Exact := (Scale.Codec.fixed_exact 64).field _

section Steps

variable {α β : Type} {y : β}

theorem bind_eq_ok_iff {ε : Type} {e : Except ε α} {f : α → Except ε β} :
    (e >>= f) = .ok y ↔ ∃ x, e = .ok x ∧ f x = .ok y := by
  cases e with
  | error failure => exact iff_of_false nofun nofun
  | ok x =>
    constructor
    · intro h
      exact ⟨x, rfl, h⟩
    · rintro ⟨_, hx, h⟩
      cases hx
      exact h

theorem guard_eq_ok_iff {c : Prop} [Decidable c] {failure : Failure}
    {next : PUnit → Except Failure β} :
    (if c then throw failure >>= next else next ⟨⟩) = .ok y ↔ ¬c ∧ next ⟨⟩ = .ok y := by
  by_cases h : c
  · rw [if_pos h]
    exact iff_of_false nofun fun hnext => hnext.1 h
  · rw [if_neg h]
    exact (and_iff_right h).symm

theorem take_eq_ok_iff {r : Scale.Reader α} {input rest : Bytes} {x : α} :
    take r input = .ok (x, rest) ↔ r input = .ok (x, rest) := by
  unfold take
  cases r input with
  | error e => exact iff_of_false nofun nofun
  | ok result => constructor <;> intro h <;> cases h <;> rfl

end Steps

/-- The fields of a transaction in the order in which they are read. -/
theorem body_eq (x : Extrinsic) :
    x.body = versionByte :: accountMark :: (AccountId.codec.encode x.signer ++
      ed25519Mark :: (signatureCodec.encode x.signature ++
        (Extra.codec.encode x.extra ++ x.call.raw))) := by
  simp only [body, List.cons_append, List.append_assoc]
  rfl

/-- A body is read if it is that of a transaction whose call has a position. -/
theorem decodeBody_eq_ok_iff {body : Bytes} {x : Extrinsic} :
    decodeBody body = .ok x ↔ 2 ≤ x.call.raw.length ∧ body = x.body := by
  unfold decodeBody
  simp only [bind_eq_ok_iff, Prod.exists, guard_eq_ok_iff, take_eq_ok_iff,
    Scale.Reader.byte_eq_ok_iff, AccountId.codec_exact.read_eq_ok_iff AccountId.codec_readsBack,
    signatureCodec_exact.read_eq_ok_iff signatureCodec_readsBack,
    Extra.codec_exact.read_eq_ok_iff Extra.codec_readsBack, ne_eq, Decidable.not_not, Nat.not_lt]
  rw [body_eq]
  constructor
  · rintro ⟨version, afterVersion, rfl, rfl, mark, afterMark, rfl, rfl, signer, afterSigner,
      ⟨-, rfl⟩, kind, afterKind, rfl, rfl, signature, afterSignature, ⟨-, rfl⟩, extra, call,
      ⟨-, rfl⟩, hposition, hx⟩
    cases hx
    exact ⟨hposition, rfl⟩
  · rintro ⟨hposition, rfl⟩
    exact ⟨versionByte, _, rfl, rfl, accountMark, _, rfl, rfl, x.signer, _, ⟨trivial, rfl⟩,
      ed25519Mark, _, rfl, rfl, x.signature, _, ⟨trivial, rfl⟩, x.extra, x.call.raw,
      ⟨x.extra.fits, rfl⟩, hposition, rfl⟩

/-- **One written form for each transaction.** Whatever is read as a transaction is its written form,
and the written form of a transaction is read back if its call has a position and its length is a
32-bit number. -/
theorem decode_eq_ok_iff_encode (wire : Bytes) (x : Extrinsic) :
    (decode wire = .ok x ↔
      2 ≤ x.call.raw.length ∧ x.body.length < UInt32.size ∧ x.encode = wire) ∧
    x.body = 0x84 :: 0 :: (x.signer.bytes ++ 0 :: (x.signature.toList ++
      0 :: (encodeCompact x.nonce.toNat ++ (encodeCompact x.extra.tip.toNat ++ x.call.raw)))) := by
  refine ⟨?_, ?_⟩
  · unfold decode
    simp only [bind_eq_ok_iff, Prod.exists, guard_eq_ok_iff, take_eq_ok_iff,
      Scale.compact_eq_ok_iff, decodeBody_eq_ok_iff, ne_eq, Decidable.not_not]
    constructor
    · rintro ⟨announced, body, ⟨hfits, rfl⟩, rfl, hposition, rfl⟩
      exact ⟨hposition, hfits, rfl⟩
    · rintro ⟨hposition, hfits, rfl⟩
      exact ⟨x.body.length, x.body, ⟨hfits, rfl⟩, rfl, hposition, rfl⟩
  · rw [body_eq, ← Extra.encode, Extra.encode_eq, List.cons_append, List.append_assoc]
    rfl

end Extrinsic

end MetaLedger
