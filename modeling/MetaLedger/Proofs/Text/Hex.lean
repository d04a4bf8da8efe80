import MetaLedger.Text.Hex

/-!
# Reading hexadecimal text back

A byte string is read back from its digits, with or without `0x` (`decode_encode`,
`decode_encode0x`). A reader takes away every leading `0x`, and no digit goes with them: the `x` of a
mark is none, so the digits of a byte string never begin with a mark, not even those that begin with
a zero (`stripMarks_encodeChars`).
-/

namespace MetaLedger

/-- The UTF-8 bytes of characters below 128 are their numbers. -/
theorem Bytes.ofString_ofList {chars : List Char} (h : ∀ c ∈ chars, c.val ≤ 127) :
    Bytes.ofString (String.ofList chars) = chars.map fun c => c.val.toUInt8 := by
  unfold Bytes.ofString
  rw [String.toByteArray_ofList]
  induction chars with
  | nil => rfl
  | cons c chars ih =>
    have hone := String.utf8EncodeChar_eq_singleton (Char.utf8Size_eq_one_iff.2 (h c List.mem_cons_self))
    rw [List.utf8Encode_cons, ByteArray.toList_data_append,
      ih fun d hd => h d (List.mem_cons_of_mem _ hd), List.utf8Encode_singleton, hone]
    rfl

namespace Hex

/-! ## One digit -/

theorem digitValue?_digit : ∀ n < 16, digitValue? (digit n).val.toUInt8 = some (UInt8.ofNat n) := by
  decide

theorem digit_le : ∀ n < 16, (digit n).val ≤ 127 := by decide

theorem digit_ne_mark : ∀ n < 16, digit n ≠ 'x' := by decide

theorem halves_lt (b : UInt8) : b.toNat / 16 < 16 ∧ b.toNat % 16 < 16 := by
  have hb := b.toNat_lt
  omega

theorem halves_eq (b : UInt8) :
    UInt8.ofNat (b.toNat / 16) * 16 + UInt8.ofNat (b.toNat % 16) = b := by
  have hb := b.toNat_lt
  have hsixteen : (16 : UInt8).toNat = 16 := rfl
  refine UInt8.toNat_inj.1 ?_
  rw [UInt8.toNat_add, UInt8.toNat_mul, UInt8.toNat_ofNat', UInt8.toNat_ofNat', hsixteen]
  omega

/-! ## Many digits -/

theorem encodeChars_cons (b : UInt8) (bytes : Bytes) :
    encodeChars (b :: bytes) = digit (b.toNat / 16) :: digit (b.toNat % 16) :: encodeChars bytes := rfl

/-- Every digit that is written is that of a number below sixteen. -/
theorem mem_encodeChars {bytes : Bytes} {c : Char} (h : c ∈ encodeChars bytes) :
    ∃ n < 16, c = digit n := by
  obtain ⟨b, -, hc⟩ := List.mem_flatMap.1 h
  obtain ⟨hhigh, hlow⟩ := halves_lt b
  rcases List.mem_cons.1 hc with rfl | hc
  · exact ⟨_, hhigh, rfl⟩
  · exact ⟨_, hlow, List.mem_singleton.1 hc⟩

theorem length_encodeChars (bytes : Bytes) : (encodeChars bytes).length = 2 * bytes.length := by
  induction bytes with
  | nil => rfl
  | cons b bytes ih =>
    rw [encodeChars_cons, List.length_cons, List.length_cons, List.length_cons, ih]
    omega

theorem stripMarks_encodeChars (bytes : Bytes) :
    stripMarks (encodeChars bytes) = encodeChars bytes := by
  cases bytes with
  | nil => rfl
  | cons b bytes =>
    have hlow := digit_ne_mark _ (halves_lt b).2
    rw [encodeChars_cons]
    unfold stripMarks
    split
    · rename_i heq
      exact absurd (List.cons.inj (List.cons.inj heq).2).1 hlow
    · rfl

/-- Wherever they stand, the digits of a byte string are read as that byte string. -/
theorem decodePairs_encodeChars (position : Nat) (bytes : Bytes) :
    decodePairs position ((encodeChars bytes).map fun c => c.val.toUInt8) = .ok bytes := by
  induction bytes generalizing position with
  | nil => rfl
  | cons b bytes ih =>
    obtain ⟨hhigh, hlow⟩ := halves_lt b
    rw [encodeChars_cons, List.map_cons, List.map_cons]
    unfold decodePairs
    simp only [digitValue?_digit _ hhigh, digitValue?_digit _ hlow, ih, halves_eq]

theorem decodeDigits_encodeChars (bytes : Bytes) :
    decodeDigits (Bytes.ofString (String.ofList (encodeChars bytes))) = .ok bytes := by
  have hsmall : ∀ c ∈ encodeChars bytes, c.val ≤ 127 := by
    intro c hc
    obtain ⟨n, hn, rfl⟩ := mem_encodeChars hc
    exact digit_le n hn
  have heven : ¬(2 * bytes.length) % 2 = 1 := by omega
  unfold decodeDigits
  rw [Bytes.ofString_ofList hsmall, List.length_map, length_encodeChars, if_neg heven,
    decodePairs_encodeChars]

theorem decode_encode (bytes : Bytes) : decode (encode bytes) = .ok bytes := by
  unfold decode encode
  rw [String.toList_ofList, stripMarks_encodeChars, decodeDigits_encodeChars]

theorem toList_encode0x (bytes : Bytes) :
    (encode0x bytes).toList = '0' :: 'x' :: encodeChars bytes := by
  have hdigits : (encode bytes).toList = encodeChars bytes := String.toList_ofList
  unfold encode0x
  rw [String.toList_append, hdigits]
  rfl

/-- **Nothing but the mark is taken away.** A byte string is read back from its digits behind `0x`. -/
theorem decode_encode0x (bytes : Bytes) : decode (encode0x bytes) = .ok bytes := by
  unfold decode
  rw [toList_encode0x, stripMarks, stripMarks_encodeChars, decodeDigits_encodeChars]

end Hex

end MetaLedger
