import MetaLedger.Proofs.Call
import MetaLedger.Proofs.Extrinsic

/-!
# What a signature commits to

A signer signs a call, what travels with it and the chain it is for, all written one behind the other,
or the digest of that if it is long (`Signable.payload`). The chain stands last and has a fixed size,
so the chains of equal payloads are equal. The call stands first and without a length, and what travels
with it has no fixed size: between the two, the bytes alone do not tell where the call ends
(`Signable.payload_commits_ambiguous`). They do where a ledger reads both calls, because what stands behind the
position of such a call tells how long it is (`Ledger.Rules.call?_append_inj`).

A digest is never taken for a payload that was signed as it is: it is shorter than what is written of
the chain alone.
-/

namespace MetaLedger

/-! ## The three parts -/

namespace ChainBinding

theorem additional_eq (chain : ChainBinding) :
    chain.additional = Scale.Codec.word.encode chain.version.spec ++
      (Scale.Codec.word.encode chain.version.transaction ++
        ((Scale.Codec.fixed 32).encode chain.genesis.raw ++ chain.genesis.bytes)) := by
  simp only [additional, List.append_assoc]
  rfl

theorem length_additional (chain : ChainBinding) : chain.additional.length = 72 := by
  have hgenesis : chain.genesis.bytes.length = 32 := chain.genesis.raw.length_eq
  simp only [additional, List.length_append, Bytes.length_ofNatLE, hgenesis]

theorem additional_inj {c d : ChainBinding} (h : c.additional = d.additional) : c = d := by
  rw [additional_eq, additional_eq] at h
  obtain ⟨hspec, hversions⟩ :=
    Scale.Codec.word_readsBack.encode_append_inj trivial trivial h
  obtain ⟨htransaction, hblocks⟩ :=
    Scale.Codec.word_readsBack.encode_append_inj trivial trivial hversions
  obtain ⟨hgenesis, -⟩ :=
    (Scale.Codec.fixed_readsBack 32).encode_append_inj trivial trivial hblocks
  obtain ⟨⟨genesis⟩, ⟨spec, transaction⟩⟩ := c
  obtain ⟨⟨genesis'⟩, ⟨spec', transaction'⟩⟩ := d
  cases hspec
  cases htransaction
  cases hgenesis
  rfl

end ChainBinding

/-- No call that a ledger reads is the beginning of another one. -/
theorem Ledger.Rules.call?_append_inj {r : Rules} {a b : EncodedCall}
    (ha : (r.call? a).isSome) (hb : (r.call? b).isSome) {x y : Bytes}
    (h : a.raw ++ x = b.raw ++ y) : a = b ∧ x = y := by
  obtain ⟨c, hc⟩ := Option.isSome_iff_exists.1 ha
  obtain ⟨d, hd⟩ := Option.isSome_iff_exists.1 hb
  obtain ⟨index, hkind, hshort, rfl⟩ := call?_eq_some_iff.1 hc
  obtain ⟨index', hkind', hshort', rfl⟩ := call?_eq_some_iff.1 hd
  simp only [Call.encodeAt, List.cons_append, List.cons.injEq] at h
  obtain ⟨hpallet, hcall, harguments⟩ := h
  have hindex : index = index' := by
    obtain ⟨pallet, call⟩ := index
    cases hpallet
    cases hcall
    rfl
  subst hindex
  -- The kind is read off the position, and the kind decides how the rest is read.
  have hsame : c.kind = d.kind := Option.some.inj (hkind.symm.trans hkind')
  have hread : Call.arguments c.kind (c.encodeArguments ++ x) = .ok (c, x) :=
    Call.arguments_eq_ok_iff.2 ⟨rfl, hshort, rfl⟩
  have hread' : Call.arguments c.kind (c.encodeArguments ++ x) = .ok (d, y) :=
    Call.arguments_eq_ok_iff.2 ⟨hsame.symm, hshort', harguments⟩
  rw [hread] at hread'
  cases hread'
  exact ⟨rfl, rfl⟩

/-! ## Payloads -/

/-- What a signer signs: a call, what travels with it, and the chain it is for. -/
structure Signable where
  call : EncodedCall
  extra : Extra
  chain : ChainBinding
deriving DecidableEq

namespace Signable

/-- The three parts, one behind the other. -/
def plain (s : Signable) : Bytes := s.call.raw ++ s.extra.encode ++ s.chain.additional

/-- The bytes that are signed. -/
def payload (s : Signable) : Bytes := signingPayload s.call s.extra s.chain

/-- Too long to be signed as it is. -/
def IsDigested (s : Signable) : Prop := maxPlainPayload < s.plain.length

variable {s t : Signable}

theorem payload_of_digested (h : s.IsDigested) :
    s.payload = (Digest.blake2b256 s.plain).toList := if_neg (Nat.not_le.2 h)

theorem payload_of_not_digested (h : ¬s.IsDigested) : s.payload = s.plain :=
  if_pos (Nat.not_lt.1 h)

theorem length_additional_le_plain (s : Signable) : 72 ≤ s.plain.length := by
  unfold plain
  rw [List.length_append, s.chain.length_additional]
  exact Nat.le_add_left 72 _

theorem payload_ne_of_digested (hs : s.IsDigested) (ht : ¬t.IsDigested) :
    s.payload ≠ t.payload := by
  intro h
  rw [payload_of_digested hs, payload_of_not_digested ht] at h
  have hlength : t.plain.length = 32 := by
    rw [← h]
    exact Fixed.length_eq _
  have hlong := t.length_additional_le_plain
  omega

/-- Payloads that are equal are of equal parts, unless two digests collide. -/
theorem plain_eq_of_payload_eq
    (hcollision : Digest.blake2b256 s.plain = Digest.blake2b256 t.plain → s.plain = t.plain)
    (h : s.payload = t.payload) : s.plain = t.plain := by
  by_cases hs : s.IsDigested
  · by_cases ht : t.IsDigested
    · rw [payload_of_digested hs, payload_of_digested ht] at h
      exact hcollision (Fixed.ext h)
    · exact absurd h (payload_ne_of_digested hs ht)
  · by_cases ht : t.IsDigested
    · exact absurd h.symm (payload_ne_of_digested ht hs)
    · rwa [payload_of_not_digested hs, payload_of_not_digested ht] at h

/-- The chain is split off at the end. -/
theorem parts_of_plain_eq (h : s.plain = t.plain) :
    s.call.raw ++ s.extra.encode = t.call.raw ++ t.extra.encode ∧ s.chain = t.chain := by
  have hlength : s.chain.additional.length = t.chain.additional.length := by
    rw [ChainBinding.length_additional, ChainBinding.length_additional]
  obtain ⟨hfront, hchain⟩ := List.append_inj' h hlength
  exact ⟨hfront, ChainBinding.additional_inj hchain⟩

theorem extra_inj {x y : Extra} (h : x.encode = y.encode) : x = y := by
  refine (Extra.codec_readsBack.encode_append_inj x.fits y.fits (a := []) (b := []) ?_).1
  rw [List.append_nil, List.append_nil]
  exact h

/-- **A signature commits to one transaction on one chain**, unless two digests collide: equal payloads
are for the same chain, and are the same altogether where a ledger reads both calls. A payload that is
signed as its digest is never one that is signed as it is. -/
theorem payload_commits (s t : Signable) :
    (s.IsDigested → ¬t.IsDigested → s.payload ≠ t.payload) ∧
    ((Digest.blake2b256 s.plain = Digest.blake2b256 t.plain → s.plain = t.plain) →
      s.payload = t.payload →
        s.chain = t.chain ∧
        ∀ r : Ledger.Rules, (r.call? s.call).isSome → (r.call? t.call).isSome → s = t) := by
  refine ⟨payload_ne_of_digested, ?_⟩
  intro hcollision hpayload
  obtain ⟨hfront, hchain⟩ := parts_of_plain_eq (plain_eq_of_payload_eq hcollision hpayload)
  refine ⟨hchain, ?_⟩
  intro r hs ht
  obtain ⟨hcall, hextra⟩ := Ledger.Rules.call?_append_inj hs ht hfront
  have hsame := extra_inj hextra
  obtain ⟨call, extra, chain⟩ := s
  cases hcall
  cases hsame
  cases hchain
  rfl

/-- What travels with a short call can be read as the end of a longer one, and as less that travels with
it. Then the chain is the same all the same, and a ledger that reads the longer call does not read the
shorter one. -/
theorem payload_commits_ambiguous : ∃ s t : Signable,
    s.call.raw = [8, 1] ∧ t.call = (Call.delete [] [2]).encodeAt ⟨8, 1⟩ ∧ s.payload = t.payload ∧
      s.chain = t.chain ∧ ∃ r : Ledger.Rules, (r.call? t.call).isSome ∧ ¬(r.call? s.call).isSome := by
  let chain : ChainBinding := ⟨BlockHash.zero, ⟨1, 1⟩⟩
  let s : Signable := ⟨⟨[8, 1]⟩, { nonce := 1, tip := 0x1010000 }, chain⟩
  let t : Signable := ⟨(Call.delete [] [2]).encodeAt ⟨8, 1⟩, { nonce := 1, tip := 1 }, chain⟩
  let r : Ledger.Rules := Ledger.Rules.ofConfig {}
  have hplain : s.plain = t.plain := by decide +kernel
  have hpayload : s.payload = t.payload := by decide +kernel
  have hne : s ≠ t := by decide +kernel
  have ht : (r.call? t.call).isSome := by decide +kernel
  obtain ⟨hchain, hread⟩ := (payload_commits s t).2 (fun _ => hplain) hpayload
  exact ⟨s, t, rfl, rfl, hpayload, hchain, r, ht, fun hs => hne (hread r hs ht)⟩

end Signable

end MetaLedger
