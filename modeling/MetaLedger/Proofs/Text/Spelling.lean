import MetaLedger.Proofs.Text.Hex
import MetaLedger.Remote.Exchange
import MetaLedger.Signer

/-!
# Which texts are read as bytes

A text spells a byte string if it is the string's digits, each capital or small, behind any number of
marks (`Spells`). All readers of hexadecimal text accept just these texts (`readers_spell`). A mark that
is taken away is never a part of the digits, because `x` is no digit, so a text spells one byte string at
most (`Spells.unique`), and what stands behind the marks does not depend on how many there are.
-/

namespace MetaLedger

/-! ## Bytes of characters -/

theorem Bytes.ofString_ofList_cons (c : Char) (chars : List Char) :
    Bytes.ofString (String.ofList (c :: chars)) =
      String.utf8EncodeChar c ++ Bytes.ofString (String.ofList chars) := by
  unfold Bytes.ofString
  rw [String.toByteArray_ofList, String.toByteArray_ofList, List.utf8Encode_cons,
    ByteArray.toList_data_append, List.utf8Encode_singleton, List.toList_data_toByteArray]

/-- A character from 128 on is written in several bytes, and the last of them is 128 at least. -/
theorem Char.exists_byte {c : Char} (h : ¬c.val ≤ 127) :
    ∃ b ∈ String.utf8EncodeChar c, ¬b ≤ 127 := by
  have hlarge : ∀ x : UInt8, ¬x ||| 128 ≤ 127 := by
    intro x hle
    have hor : 128 ≤ (x ||| 128).toNat := UInt8.toNat_or x 128 ▸ Nat.right_le_or
    have hle' : (x ||| 128).toNat ≤ 127 := UInt8.le_iff_toNat_le.1 hle
    omega
  refine ⟨c.val.toUInt8 &&& 63 ||| 128, ?_, hlarge _⟩
  rcases Char.utf8Size_eq c with hone | htwo | hthree | hfour
  · exact absurd (Char.utf8Size_eq_one_iff.1 hone) h
  · rw [String.utf8EncodeChar_eq_cons_cons htwo]
    simp
  · rw [String.utf8EncodeChar_eq_cons_cons_cons hthree]
    simp
  · rw [String.utf8EncodeChar_eq_cons_cons_cons_cons hfour]
    simp

theorem Bytes.le_of_ofString_ofList {chars : List Char}
    (h : ∀ b ∈ Bytes.ofString (String.ofList chars), b ≤ 127) : ∀ c ∈ chars, c.val ≤ 127 := by
  induction chars with
  | nil => exact fun _ hc => nomatch hc
  | cons c chars ih =>
    rw [Bytes.ofString_ofList_cons] at h
    intro d hd
    rcases List.mem_cons.1 hd with rfl | hd
    · by_cases hsmall : d.val ≤ 127
      · exact hsmall
      · obtain ⟨b, hb, hbyte⟩ := Char.exists_byte hsmall
        exact absurd (h b (List.mem_append_left _ hb)) hbyte
    · exact ih (fun b hb => h b (List.mem_append_right _ hb)) d hd

namespace Hex

/-! ## One digit of either case -/

/-- The digits, small and capital. -/
def digitChars : List Char := "0123456789abcdefABCDEF".toList

theorem le_of_toLower {c : Char} {n : Nat} (hn : n < 16) (h : c.toLower = digit n) :
    c.val ≤ 127 := by
  unfold Char.toLower at h
  split at h
  · next hcapital => exact UInt32.le_trans hcapital.2 (by decide)
  · exact h ▸ digit_le n hn

/-- What holds of the first 128 characters holds of a character below 128. -/
theorem of_le {P : Char → Prop} (hall : ∀ n < 128, P (Char.ofNat n)) {c : Char}
    (h : c.val ≤ 127) : P c := by
  have hlt : c.toNat < 128 := Nat.lt_succ_of_le (UInt32.le_iff_toNat_le.1 h)
  exact Char.ofNat_toNat c ▸ hall c.toNat hlt

theorem toLower_of_digitValue? {c : Char} (h : c.val ≤ 127) {v : UInt8}
    (hvalue : digitValue? c.val.toUInt8 = some v) : v.toNat < 16 ∧ c.toLower = digit v.toNat := by
  have hall : ∀ n < 128, (digitValue? (Char.ofNat n).val.toUInt8).all fun v =>
      v.toNat < 16 ∧ (Char.ofNat n).toLower = digit v.toNat := by
    decide
  have hdigit := of_le (P := fun c => (digitValue? c.val.toUInt8).all fun v =>
    v.toNat < 16 ∧ c.toLower = digit v.toNat) hall h
  rw [hvalue, Option.all_some] at hdigit
  exact of_decide_eq_true hdigit

theorem digitValue?_of_toLower {c : Char} {n : Nat} (hn : n < 16) (h : c.toLower = digit n) :
    digitValue? c.val.toUInt8 = some (UInt8.ofNat n) := by
  have hall : ∀ m < 128, ∀ n < 16, (Char.ofNat m).toLower = digit n →
      digitValue? (Char.ofNat m).val.toUInt8 = some (UInt8.ofNat n) := by
    decide
  exact of_le (P := fun c => ∀ n < 16, c.toLower = digit n →
    digitValue? c.val.toUInt8 = some (UInt8.ofNat n)) hall (le_of_toLower hn h) n hn h

theorem mem_digitChars_iff {c : Char} : c ∈ digitChars ↔ ∃ n < 16, c.toLower = digit n := by
  constructor
  · intro hc
    have hall : digitChars.all fun c => decide (∃ n < (16 : Nat), c.toLower = digit n) := by decide
    exact of_decide_eq_true (List.all_eq_true.1 hall c hc)
  · rintro ⟨n, hn, hlower⟩
    have hall : ∀ m < 128, ∀ n < 16, (Char.ofNat m).toLower = digit n → Char.ofNat m ∈ digitChars := by
      decide
    exact of_le (P := fun c => ∀ n < 16, c.toLower = digit n → c ∈ digitChars) hall
      (le_of_toLower hn hlower) n hn hlower

/-! ## Many digits -/

theorem decodePairs_cons_eq_ok_iff {position : Nat} {high low : UInt8} {rest bytes : Bytes} :
    decodePairs position (high :: low :: rest) = .ok bytes ↔
      ∃ h l tail, digitValue? high = some h ∧ digitValue? low = some l ∧
        decodePairs (position + 2) rest = .ok tail ∧ bytes = (h * 16 + l) :: tail := by
  rw [decodePairs]
  cases digitValue? high with
  | none => simp
  | some h =>
    cases digitValue? low with
    | none => simp
    | some l =>
      cases decodePairs (position + 2) rest with
      | error e => simp
      | ok tail => simp [eq_comm]

/-- Digits that are read are characters of one byte. -/
theorem le_of_decodePairs {position : Nat} {text bytes : Bytes}
    (h : decodePairs position text = .ok bytes) : ∀ b ∈ text, b ≤ 127 := by
  have hdigit : ∀ {b v : UInt8}, digitValue? b = some v → b ≤ 127 := by
    intro b v hvalue
    unfold digitValue? at hvalue
    simp only [UInt8.le_iff_toNat_le] at hvalue ⊢
    grind
  fun_induction decodePairs position text generalizing bytes with
  | case1 => exact fun _ hb => nomatch hb
  | case2 => cases h
  | case3 => cases h
  | case4 => cases h
  | case5 position high low rest hv lv hlow hhigh tail htail ih =>
    intro b hb
    rcases List.mem_cons.1 hb with rfl | hb
    · exact hdigit hhigh
    · rcases List.mem_cons.1 hb with rfl | hb
      · exact hdigit hlow
      · exact ih htail b hb
  | case6 => cases h

/-- The halves of a byte that is put together from two digits. -/
theorem halves_add {h l : UInt8} (hh : h.toNat < 16) (hl : l.toNat < 16) :
    (h * 16 + l).toNat / 16 = h.toNat ∧ (h * 16 + l).toNat % 16 = l.toNat := by
  have hsum : (h * 16 + l).toNat = h.toNat * 16 + l.toNat := by
    have hsixteen : (16 : UInt8).toNat = 16 := rfl
    rw [UInt8.toNat_add, UInt8.toNat_mul, hsixteen]
    omega
  omega

theorem decodePairs_eq_ok_iff {position : Nat} {chars : List Char}
    (hsmall : ∀ c ∈ chars, c.val ≤ 127) {bytes : Bytes} :
    decodePairs position (chars.map fun c => c.val.toUInt8) = .ok bytes ↔
      chars.map Char.toLower = encodeChars bytes := by
  -- Two characters and one byte at a time.
  induction bytes generalizing position chars with
  | nil =>
    match chars with
    | [] => exact iff_of_true rfl rfl
    | [_] => exact iff_of_false nofun nofun
    | high :: low :: rest =>
      rw [List.map_cons, List.map_cons, decodePairs_cons_eq_ok_iff]
      refine iff_of_false ?_ nofun
      rintro ⟨_, _, _, -, -, -, hnil⟩
      cases hnil
  | cons b bytes ih =>
    rw [encodeChars_cons]
    match chars with
    | [] => exact iff_of_false nofun nofun
    | [_] => exact iff_of_false nofun (by simp)
    | high :: low :: rest =>
      have hrest : ∀ c ∈ rest, c.val ≤ 127 := fun c hc =>
        hsmall c (List.mem_cons_of_mem _ (List.mem_cons_of_mem _ hc))
      simp only [List.map_cons, decodePairs_cons_eq_ok_iff, List.cons.injEq]
      constructor
      · rintro ⟨h, l, tail, hhigh, hlow, htail, rfl, rfl⟩
        obtain ⟨hh, hhigh'⟩ := toLower_of_digitValue? (hsmall high List.mem_cons_self) hhigh
        obtain ⟨hl, hlow'⟩ := toLower_of_digitValue?
          (hsmall low (List.mem_cons_of_mem _ List.mem_cons_self)) hlow
        obtain ⟨hdiv, hmod⟩ := halves_add hh hl
        rw [hdiv, hmod]
        exact ⟨hhigh', hlow', (ih hrest).1 htail⟩
      · rintro ⟨hhigh, hlow, htail⟩
        obtain ⟨hdiv, hmod⟩ := halves_lt b
        exact ⟨_, _, bytes, digitValue?_of_toLower hdiv hhigh, digitValue?_of_toLower hmod hlow,
          (ih hrest).2 htail, (halves_eq b).symm, rfl⟩

theorem length_of_decodePairs {position : Nat} {text bytes : Bytes}
    (h : decodePairs position text = .ok bytes) : text.length = 2 * bytes.length := by
  induction bytes generalizing position text with
  | nil =>
    match text with
    | [] => rfl
    | [_] => cases h
    | _ :: _ :: _ =>
      obtain ⟨_, _, _, -, -, -, hnil⟩ := decodePairs_cons_eq_ok_iff.1 h
      cases hnil
  | cons b bytes ih =>
    match text with
    | [] => cases h
    | [_] => cases h
    | _ :: _ :: rest =>
      obtain ⟨_, _, tail, -, -, htail, hcons⟩ := decodePairs_cons_eq_ok_iff.1 h
      obtain rfl := (List.cons.inj hcons).2
      simp only [List.length_cons, ih htail]
      omega

/-- The characters that are read are the digits of what is read, each capital or small. -/
theorem decodeDigits_eq_ok_iff {chars : List Char} {bytes : Bytes} :
    decodeDigits (Bytes.ofString (String.ofList chars)) = .ok bytes ↔
      chars.map Char.toLower = encodeChars bytes := by
  have hpairs : ∀ text, decodeDigits text = .ok bytes ↔ decodePairs 0 text = .ok bytes := by
    intro text
    unfold decodeDigits
    split
    · next hodd =>
      refine iff_of_false nofun fun h => ?_
      rw [length_of_decodePairs h] at hodd
      omega
    · exact Iff.rfl
  rw [hpairs]
  constructor
  · intro h
    have hsmall := Bytes.le_of_ofString_ofList (le_of_decodePairs h)
    rw [Bytes.ofString_ofList hsmall] at h
    exact (decodePairs_eq_ok_iff hsmall).1 h
  · intro h
    have hsmall : ∀ c ∈ chars, c.val ≤ 127 := by
      intro c hc
      obtain ⟨n, hn, hdigit⟩ := mem_encodeChars (h ▸ List.mem_map_of_mem hc)
      exact le_of_toLower hn hdigit
    rw [Bytes.ofString_ofList hsmall]
    exact (decodePairs_eq_ok_iff hsmall).2 h

/-- Any digits of an even number are those of a byte string. -/
theorem exists_encodeChars {chars : List Char} {n : Nat} (hlength : chars.length = 2 * n)
    (hdigits : ∀ c ∈ chars, c ∈ digitChars) :
    ∃ bytes, bytes.length = n ∧ chars.map Char.toLower = encodeChars bytes := by
  induction n generalizing chars with
  | zero =>
    obtain rfl := List.eq_nil_of_length_eq_zero hlength
    exact ⟨[], rfl, rfl⟩
  | succ n ih =>
    match chars with
    | high :: low :: rest =>
      have hrest : rest.length = 2 * n := by
        simp only [List.length_cons] at hlength
        omega
      obtain ⟨h, hh, hhigh⟩ := mem_digitChars_iff.1 (hdigits high List.mem_cons_self)
      obtain ⟨l, hl, hlow⟩ := mem_digitChars_iff.1
        (hdigits low (List.mem_cons_of_mem _ List.mem_cons_self))
      obtain ⟨bytes, hbytes, htail⟩ := ih hrest fun c hc =>
        hdigits c (List.mem_cons_of_mem _ (List.mem_cons_of_mem _ hc))
      refine ⟨UInt8.ofNat (h * 16 + l) :: bytes, congrArg Nat.succ hbytes, ?_⟩
      have hbyte : (UInt8.ofNat (h * 16 + l)).toNat = h * 16 + l := by
        rw [UInt8.toNat_ofNat']
        omega
      have hdiv : (h * 16 + l) / 16 = h := by omega
      have hmod : (h * 16 + l) % 16 = l := by omega
      rw [encodeChars_cons, hbyte, hdiv, hmod, ← htail, ← hhigh, ← hlow]
      rfl

/-! ## Marks -/

/-- A text behind a number of marks. -/
def marked : Nat → List Char → List Char
  | 0, text => text
  | marks + 1, text => '0' :: 'x' :: marked marks text

theorem stripMarks_marked (marks : Nat) (text : List Char) :
    stripMarks (marked marks text) = stripMarks text := by
  induction marks with
  | zero => rfl
  | succ marks ih => exact ih

theorem exists_marked_stripMarks (text : List Char) :
    ∃ marks, text = marked marks (stripMarks text) := by
  fun_induction stripMarks text with
  | case1 rest ih =>
    obtain ⟨marks, hmarks⟩ := ih
    exact ⟨marks + 1, congrArg (fun text => '0' :: 'x' :: text) hmarks⟩
  | case2 text => exact ⟨0, rfl⟩

/-- The `x` of a mark is no digit, so no digit is taken away with the marks. -/
theorem stripMarks_of_digits {chars : List Char} {bytes : Bytes}
    (h : chars.map Char.toLower = encodeChars bytes) : stripMarks chars = chars := by
  fun_cases stripMarks chars with
  | case1 rest =>
    have hmark : 'x' ∈ encodeChars bytes := by
      rw [← h]
      exact List.mem_cons_of_mem _ List.mem_cons_self
    obtain ⟨n, hn, hdigit⟩ := mem_encodeChars hmark
    exact absurd hdigit.symm (digit_ne_mark n hn)
  | case2 => rfl

/-! ## Spelling -/

/-- The text is the digits of a byte string, each capital or small, behind any number of marks. -/
def Spells (s : String) (bytes : Bytes) : Prop :=
  ∃ marks chars, s.toList = marked marks chars ∧ chars.map Char.toLower = encodeChars bytes

/-- **What is read.** -/
theorem decode_eq_ok_iff {s : String} {bytes : Bytes} : decode s = .ok bytes ↔ Spells s bytes := by
  unfold decode
  rw [decodeDigits_eq_ok_iff]
  constructor
  · intro h
    obtain ⟨marks, hmarks⟩ := exists_marked_stripMarks s.toList
    exact ⟨marks, _, hmarks, h⟩
  · rintro ⟨marks, chars, hs, h⟩
    rw [hs, stripMarks_marked, stripMarks_of_digits h]
    exact h

/-- Marks, then capital and small digits; a capital mark is none. -/
example : decode "0x0x0aFf" = .ok [0x0a, 0xff] ∧ decode "0X0a" = .error (.invalidDigit 88 1) :=
  ⟨rfl, rfl⟩

theorem Spells.unique {s : String} {bytes other : Bytes} (h : Spells s bytes)
    (hother : Spells s other) : bytes = other := by
  have heq := (decode_eq_ok_iff.2 h).symm.trans (decode_eq_ok_iff.2 hother)
  exact Except.ok.inj heq

theorem toLower_encodeChars (bytes : Bytes) :
    (encodeChars bytes).map Char.toLower = encodeChars bytes := by
  have hall : ∀ n < 16, (digit n).toLower = digit n := by decide
  refine List.map_congr_left (fun c hc => ?_) |>.trans (List.map_id _)
  obtain ⟨n, hn, rfl⟩ := mem_encodeChars hc
  exact hall n hn

/-- A text with a number of marks put in front. -/
def behind (marks : Nat) (s : String) : String := String.ofList (marked marks s.toList)

theorem spells_behind_encode (marks : Nat) (bytes : Bytes) :
    Spells (behind marks (encode bytes)) bytes := by
  refine ⟨marks, encodeChars bytes, ?_, toLower_encodeChars bytes⟩
  rw [behind, encode, String.toList_ofList, String.toList_ofList]

theorem spells_behind_encode0x (marks : Nat) (bytes : Bytes) :
    Spells (behind marks (encode0x bytes)) bytes := by
  have hmarked : ∀ marks, marked marks ('0' :: 'x' :: encodeChars bytes) =
      marked (marks + 1) (encodeChars bytes) := by
    intro marks
    induction marks with
    | zero => rfl
    | succ marks ih => exact congrArg (fun text => '0' :: 'x' :: text) ih
  refine ⟨marks + 1, encodeChars bytes, ?_, toLower_encodeChars bytes⟩
  rw [behind, String.toList_ofList, toList_encode0x, hmarked]

/-- What a text can spell: any digits of an even number, behind any number of marks. -/
theorem exists_spells_iff {s : String} {n : Nat} :
    (∃ bytes, bytes.length = n ∧ Spells s bytes) ↔
      ∃ marks chars, s.toList = marked marks chars ∧ chars.length = 2 * n ∧
        ∀ c ∈ chars, c ∈ digitChars := by
  constructor
  · rintro ⟨bytes, rfl, marks, chars, hs, h⟩
    refine ⟨marks, chars, hs, ?_, ?_⟩
    · rw [← length_encodeChars, ← h, List.length_map]
    · intro c hc
      exact mem_digitChars_iff.2 (mem_encodeChars (h ▸ List.mem_map_of_mem hc))
  · rintro ⟨marks, chars, hs, hlength, hdigits⟩
    obtain ⟨bytes, hbytes, h⟩ := exists_encodeChars hlength hdigits
    exact ⟨bytes, hbytes, marks, chars, hs, h⟩

/-! ## Readers -/

/-- A reader takes the texts that spell what it gives. So every value is read from its digits, alone or
as they are shown, with any number of marks in front. -/
structure Reads {ε α : Type} (read : String → Except ε α) (view : α → Bytes) : Prop where
  ok_iff : ∀ s value, read s = .ok value ↔ Spells s (view value)
  plain : ∀ marks value, read (behind marks (encode (view value))) = .ok value
  shown : ∀ marks value, read (behind marks (encode0x (view value))) = .ok value

theorem reads_of_ok_iff {ε α : Type} {read : String → Except ε α} {view : α → Bytes}
    (h : ∀ s value, read s = .ok value ↔ Spells s (view value)) : Reads read view where
  ok_iff := h
  plain marks value := (h _ value).2 (spells_behind_encode marks (view value))
  shown marks value := (h _ value).2 (spells_behind_encode0x marks (view value))

/-- A reader that asks for a length gives what has it. -/
theorem fixed_eq_ok_iff {ε δ : Type} {n : Nat} {bytes : Bytes} {b : Fixed n}
    {result : Except ε (Fixed n)} (e : ε)
    (hsome : ∀ found, Fixed.ofList? n bytes = some found → result = .ok found)
    (hnone : Fixed.ofList? n bytes = none → result = .error e) :
    result = .ok b ↔ (.ok bytes : Except δ Bytes) = .ok b.toList := by
  rw [Except.ok.injEq, ← Fixed.ofList?_eq_some_iff]
  cases hlist : Fixed.ofList? n bytes with
  | none =>
    rw [hnone hlist]
    exact iff_of_false nofun nofun
  | some found =>
    rw [hsome found hlist, Except.ok.injEq, Option.some.injEq]

theorem decodeFixed_eq_ok_iff {n : Nat} {s : String} {b : Fixed n} :
    decodeFixed n s = .ok b ↔ Spells s b.toList := by
  rw [← decode_eq_ok_iff]
  unfold decodeFixed
  cases decode s with
  | error e => exact iff_of_false nofun nofun
  | ok bytes =>
    refine fixed_eq_ok_iff .wrongLength (fun found h => ?_) (fun h => ?_)
    all_goals simp only [h]

theorem reads_accountId : Reads AccountId.ofHex AccountId.bytes := by
  refine reads_of_ok_iff fun s a => Iff.trans ?_ decodeFixed_eq_ok_iff
  unfold AccountId.ofHex
  cases decodeFixed 32 s with
  | error e => exact iff_of_false nofun nofun
  | ok found => exact ⟨fun h => congrArg (fun a => a.map AccountId.raw) h, fun h => congrArg _ h⟩

theorem reads_blockHash : Reads BlockHash.ofHex BlockHash.bytes := by
  refine reads_of_ok_iff fun s h => Iff.trans ?_ decodeFixed_eq_ok_iff
  unfold BlockHash.ofHex
  cases decodeFixed 32 s with
  | error e => exact iff_of_false nofun nofun
  | ok found => exact ⟨fun h => congrArg (fun a => a.map BlockHash.raw) h, fun h => congrArg _ h⟩

theorem reads_bytesOfText : Reads Remote.bytesOfText id := by
  refine reads_of_ok_iff fun s bytes => Iff.trans ?_ decode_eq_ok_iff
  unfold Remote.bytesOfText
  cases decode s with
  | error e => exact iff_of_false nofun nofun
  | ok found => exact ⟨fun h => congrArg _ (Except.ok.inj h), fun h => congrArg _ (Except.ok.inj h)⟩

theorem reads_hashOfText : Reads Remote.hashOfText Fixed.toList := by
  refine reads_of_ok_iff fun s b => ?_
  rw [← id_eq b.toList, ← reads_bytesOfText.ok_iff]
  unfold Remote.hashOfText
  cases Remote.bytesOfText s with
  | error e => exact iff_of_false nofun nofun
  | ok bytes =>
    refine fixed_eq_ok_iff (.decode (.hashLength bytes.length)) (fun found h => ?_) (fun h => ?_)
    all_goals simp only [h]

theorem reads_seedOfHex : Reads Signer.seedOfHex Fixed.toList := by
  refine reads_of_ok_iff fun s b => ?_
  rw [← decode_eq_ok_iff]
  unfold Signer.seedOfHex
  cases decode s with
  | error e => exact iff_of_false nofun nofun
  | ok bytes =>
    refine fixed_eq_ok_iff (.signing (.seedLength bytes.length)) (fun found h => ?_) (fun h => ?_)
    all_goals simp only [h]

/-- **All readers agree.** Accounts, blocks, hashes and seeds are read from the texts that spell them, and
a remote node's bytes from those that spell any byte string: from as many digits as the value has, of
either case, behind any number of marks. No text spells two byte strings, whoever reads it. -/
theorem readers_spell :
    Reads AccountId.ofHex AccountId.bytes ∧ Reads BlockHash.ofHex BlockHash.bytes ∧
    Reads Remote.hashOfText Fixed.toList ∧ Reads Remote.bytesOfText id ∧
    Reads Signer.seedOfHex Fixed.toList ∧
    (∀ s n, (∃ bytes, bytes.length = n ∧ Spells s bytes) ↔
      ∃ marks chars, s.toList = marked marks chars ∧ chars.length = 2 * n ∧
        ∀ c ∈ chars, c ∈ digitChars) ∧
    ∀ s bytes other, Spells s bytes → Spells s other → bytes = other :=
  ⟨reads_accountId, reads_blockHash, reads_hashOfText, reads_bytesOfText, reads_seedOfHex,
    fun _ _ => exists_spells_iff, fun _ _ _ => Spells.unique⟩

end Hex

end MetaLedger
