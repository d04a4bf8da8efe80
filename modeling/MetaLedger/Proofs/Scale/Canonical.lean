import MetaLedger.Proofs.Scale.RoundTrip

/-!
# What is read was written

A codec is *exact* when its reader takes nothing but written forms: whatever it takes from the front
of an input is what the codec writes for the value that it hands back, and that value fits. A codec
that is exact and reads back gives each value one written form. Exact codecs may be put one after the
other (`Exact.pair`) and renamed (`Exact.iso`).

A compact integer is exact because each form asks that the number is not below the least one of its
size (`compact_eq_ok_iff`). That the first byte of a form holds the low bits of the number is the one
equation behind the first three forms (`ofNatLE_succ_byte`).
-/

namespace MetaLedger.Scale

/-! ## Readers -/

namespace Reader

variable {α β : Type}

theorem bind_eq_ok_iff {r : Reader α} {f : α → Reader β} {input rest : Bytes} {y : β} :
    (r >>= f) input = .ok (y, rest) ↔
      ∃ x middle, r input = .ok (x, middle) ∧ f x middle = .ok (y, rest) := by
  rw [bind_apply]
  constructor
  · intro h
    cases hr : r input with
    | error e =>
      rw [hr] at h
      cases h
    | ok result =>
      obtain ⟨x, middle⟩ := result
      rw [hr] at h
      exact ⟨x, middle, rfl, h⟩
  · rintro ⟨x, middle, hr, hf⟩
    rw [hr]
    exact hf

theorem byte_eq_ok_iff {input rest : Bytes} {b : UInt8} :
    byte input = .ok (b, rest) ↔ input = b :: rest := by
  cases input with
  | nil => exact iff_of_false nofun nofun
  | cons first others =>
    constructor <;> intro h <;> cases h <;> rfl

theorem fixed_eq_ok {n : Nat} {input rest : Bytes} {b : Fixed n}
    (h : fixed n input = .ok (b, rest)) : input = b.toList ++ rest := by
  unfold fixed at h
  cases htake : Fixed.ofList? n (input.take n) with
  | none =>
    rw [htake] at h
    cases h
  | some taken =>
    rw [htake] at h
    cases h
    rw [← Fixed.ofList?_eq_some_iff.1 htake, List.take_append_drop]

theorem natLE_eq_ok {width n : Nat} {input rest : Bytes} (h : natLE width input = .ok (n, rest)) :
    n < Bytes.bound width ∧ input = Bytes.ofNatLE width n ++ rest := by
  obtain ⟨b, middle, hb, hn⟩ := bind_eq_ok_iff.1 h
  cases hn
  have hlt := Bytes.toNatLE_lt b.toList
  have hback := Bytes.ofNatLE_toNatLE b.toList
  rw [b.length_eq] at hlt hback
  refine ⟨hlt, ?_⟩
  rw [hback]
  exact fixed_eq_ok hb

end Reader

/-! ## Compact integers -/

section Compact

variable {width : Width} {n : Nat}

theorem inRange_eq_ok {low high m : Nat} {input rest : Bytes}
    (h : inRange width low high n input = .ok (m, rest)) :
    m = n ∧ rest = input ∧ low ≤ n ∧ n < high := by
  unfold inRange at h
  by_cases hrange : low ≤ n ∧ n < high
  · rw [if_pos hrange] at h
    cases h
    exact ⟨rfl, rfl, hrange⟩
  · rw [if_neg hrange] at h
    cases h

theorem bound_mono {a b : Nat} (h : a ≤ b) : Bytes.bound a ≤ Bytes.bound b := by
  rw [Bytes.bound_eq_shiftLeft, Bytes.bound_eq_shiftLeft, Nat.one_shiftLeft, Nat.one_shiftLeft]
  exact Nat.pow_le_pow_right (by omega) (by omega)

theorem le_byteLength {size : Nat} (h : Bytes.bound (size - 1) ≤ n) (hsize : 0 < size) :
    size ≤ byteLength n := by
  rcases Nat.lt_or_ge (byteLength n) size with hlt | hge
  · have hmono : Bytes.bound (byteLength n) ≤ Bytes.bound (size - 1) := bound_mono (by omega)
    have hn := lt_bound_byteLength n
    omega
  · exact hge

/-- A number written behind its form: the first byte holds both the form and the low bits. -/
theorem ofNatLE_of_form {first : UInt8} {form : Nat} (h : first.toNat % 4 = form) (k high : Nat) :
    Bytes.ofNatLE (k + 1) (4 * (first.toNat / 4 + 64 * high) + form) =
      first :: Bytes.ofNatLE k high := by
  have hsum : 4 * (first.toNat / 4 + 64 * high) + form = first.toNat + 256 * high := by omega
  have hlt := first.toNat_lt
  have hfirst : UInt8.ofNat (first.toNat + 256 * high) = first := by
    apply UInt8.toNat_inj.mp
    rw [UInt8.toNat_ofNat']
    omega
  have hhigh : (first.toNat + 256 * high) / 256 = high := by omega
  rw [hsum, Bytes.ofNatLE, hfirst, hhigh]

theorem encodeCompact_oneByte (h : n < oneByteBound) :
    encodeCompact n = Bytes.ofNatLE 1 (4 * n) := by
  unfold encodeCompact
  rw [if_pos h]

theorem encodeCompact_twoByte (hlow : oneByteBound ≤ n) (hhigh : n < twoByteBound) :
    encodeCompact n = Bytes.ofNatLE 2 (4 * n + 1) := by
  unfold encodeCompact
  rw [if_neg (Nat.not_lt.2 hlow), if_pos hhigh]

theorem encodeCompact_fourByte (hlow : twoByteBound ≤ n) (hhigh : n < fourByteBound) :
    encodeCompact n = Bytes.ofNatLE 4 (4 * n + 2) := by
  have hone : ¬n < oneByteBound := by
    unfold twoByteBound at hlow
    unfold oneByteBound
    omega
  unfold encodeCompact
  rw [if_neg hone, if_neg (Nat.not_lt.2 hlow), if_pos hhigh]

theorem encodeCompact_manyBytes (h : fourByteBound ≤ n) :
    encodeCompact n =
      UInt8.ofNat (4 * (byteLength n - 4) + 3) :: Bytes.ofNatLE (byteLength n) n := by
  have hone : ¬n < oneByteBound := by
    unfold fourByteBound at h
    unfold oneByteBound
    omega
  have htwo : ¬n < twoByteBound := by
    unfold fourByteBound at h
    unfold twoByteBound
    omega
  unfold encodeCompact
  rw [if_neg hone, if_neg htwo, if_neg (Nat.not_lt.2 h)]

/-- The number of bytes that a long form announces is the least one that its number needs. -/
theorem encodeCompact_of_size {size : Nat} (hsize : 4 ≤ size)
    (hlow : (if size = 4 then fourByteBound else Bytes.bound (size - 1)) ≤ n)
    (hhigh : n < Bytes.bound size) :
    encodeCompact n = UInt8.ofNat (4 * (size - 4) + 3) :: Bytes.ofNatLE size n := by
  have hlong : fourByteBound ≤ n := by
    by_cases hfour : size = 4
    · rwa [if_pos hfour] at hlow
    · rw [if_neg hfour] at hlow
      have hmono : Bytes.bound 4 ≤ Bytes.bound (size - 1) := bound_mono (by omega)
      have hbelow : fourByteBound ≤ Bytes.bound 4 := by decide
      omega
  have hn : n ≠ 0 := by
    unfold fourByteBound at hlong
    omega
  have hmax : byteLength n ≤ size := byteLength_le hhigh hn
  have hmin : size ≤ byteLength n := by
    by_cases hfour : size = 4
    · rw [hfour]
      exact four_le_byteLength hlong
    · rw [if_neg hfour] at hlow
      exact le_byteLength hlow (by omega)
  rw [encodeCompact_manyBytes hlong, Nat.le_antisymm hmax hmin]

/-- What is read as a compact integer is the compact form of a number within the width. -/
theorem compact_eq_ok {input rest : Bytes} (h : compact width input = .ok (n, rest)) :
    n < Bytes.bound width.bytes ∧ input = encodeCompact n ++ rest := by
  unfold compact at h
  obtain ⟨first, middle, hfirst, hform⟩ := Reader.bind_eq_ok_iff.1 h
  obtain rfl := Reader.byte_eq_ok_iff.1 hfirst
  have hbyte := first.toNat_lt
  have hwidth : fourByteBound ≤ Bytes.bound width.bytes := by cases width <;> decide
  -- The low two bits of the first byte are the form.
  have hcases : first.toNat % 4 = 0 ∨ first.toNat % 4 = 1 ∨ first.toNat % 4 = 2 ∨
      first.toNat % 4 = 3 := by omega
  rcases hcases with hlow | hlow | hlow | hlow <;> simp only [hlow] at hform
  · -- one byte
    cases hform
    have hn : first.toNat / 4 < oneByteBound := by
      unfold oneByteBound
      omega
    have hbytes : Bytes.ofNatLE 1 (4 * (first.toNat / 4)) = [first] := ofNatLE_of_form hlow 0 0
    refine ⟨Nat.lt_of_lt_of_le hn (Nat.le_trans (by decide) hwidth), ?_⟩
    rw [encodeCompact_oneByte hn, hbytes]
    rfl
  · -- two bytes
    obtain ⟨high, middle', hhigh, hrange⟩ := Reader.bind_eq_ok_iff.1 hform
    obtain ⟨-, rfl⟩ := Reader.natLE_eq_ok hhigh
    obtain ⟨rfl, rfl, hmin, hmax⟩ := inRange_eq_ok hrange
    refine ⟨Nat.lt_of_lt_of_le hmax (Nat.le_trans (by decide) hwidth), ?_⟩
    rw [encodeCompact_twoByte hmin hmax, ofNatLE_of_form hlow]
    rfl
  · -- four bytes
    obtain ⟨high, middle', hhigh, hrange⟩ := Reader.bind_eq_ok_iff.1 hform
    obtain ⟨-, rfl⟩ := Reader.natLE_eq_ok hhigh
    obtain ⟨rfl, rfl, hmin, hmax⟩ := inRange_eq_ok hrange
    refine ⟨Nat.lt_of_lt_of_le hmax hwidth, ?_⟩
    rw [encodeCompact_fourByte hmin hmax, ofNatLE_of_form hlow]
    rfl
  · -- as many bytes as it announces
    by_cases hsize : first.toNat / 4 + 4 ≤ width.bytes
    · rw [if_pos hsize] at hform
      obtain ⟨m, middle', hm, hrange⟩ := Reader.bind_eq_ok_iff.1 hform
      obtain ⟨-, rfl⟩ := Reader.natLE_eq_ok hm
      obtain ⟨rfl, rfl, hmin, hmax⟩ := inRange_eq_ok hrange
      have hannounced : UInt8.ofNat (4 * (first.toNat / 4 + 4 - 4) + 3) = first := by
        apply UInt8.toNat_inj.mp
        rw [UInt8.toNat_ofNat']
        omega
      refine ⟨Nat.lt_of_lt_of_le hmax (bound_mono hsize), ?_⟩
      rw [encodeCompact_of_size (Nat.le_add_left 4 _) hmin hmax, hannounced]
      rfl
    · rw [if_neg hsize] at hform
      cases width <;> cases hform

/-- The compact forms of the numbers within a width, and nothing else, are read. -/
theorem compact_eq_ok_iff {input rest : Bytes} :
    compact width input = .ok (n, rest) ↔
      n < Bytes.bound width.bytes ∧ input = encodeCompact n ++ rest := by
  constructor
  · exact compact_eq_ok
  · rintro ⟨hn, rfl⟩
    exact compact_encodeCompact hn rest

theorem length_encodeCompact (n : Nat) : (encodeCompact n).length =
    if n < oneByteBound then 1 else if n < twoByteBound then 2
    else if n < fourByteBound then 4 else byteLength n + 1 := by
  simp only [encodeCompact, apply_ite List.length, Bytes.length_ofNatLE, List.length_cons]

/-- Of two numbers, the smaller one's form is not the longer. -/
theorem length_encodeCompact_mono {m n : Nat} (h : m ≤ n) :
    (encodeCompact m).length ≤ (encodeCompact n).length := by
  have hfour : fourByteBound ≤ n → 4 ≤ byteLength n := four_le_byteLength
  have hlong : fourByteBound ≤ m → byteLength m ≤ byteLength n := by
    intro hm
    unfold fourByteBound at hm
    exact byteLength_le (Nat.lt_of_le_of_lt h (lt_bound_byteLength n)) (by omega)
  rw [length_encodeCompact, length_encodeCompact]
  unfold oneByteBound twoByteBound fourByteBound at *
  grind

end Compact

/-! ## Codecs -/

theorem bytes_eq_ok {input rest b : Bytes} (h : bytes input = .ok (b, rest)) :
    b.length < UInt32.size ∧ input = encodeBytes b ++ rest := by
  rw [bytes_apply] at h
  cases hlength : compact .u32 input with
  | error e =>
    rw [hlength] at h
    cases h
  | ok result =>
    obtain ⟨n, middle⟩ := result
    obtain ⟨hn, rfl⟩ := compact_eq_ok hlength
    simp only [hlength] at h
    by_cases henough : n ≤ middle.length
    · rw [if_pos henough] at h
      cases h
      have htaken : (middle.take n).length = n := List.length_take_of_le henough
      refine ⟨htaken.symm ▸ hn, ?_⟩
      rw [encodeBytes, htaken, List.append_assoc, List.take_append_drop]
    · rw [if_neg henough] at h
      cases h

theorem bytes_eq_ok_iff {input rest b : Bytes} :
    bytes input = .ok (b, rest) ↔ b.length < UInt32.size ∧ input = encodeBytes b ++ rest := by
  constructor
  · exact bytes_eq_ok
  · rintro ⟨hb, rfl⟩
    exact bytes_encodeBytes hb rest

/-- The byte sequence that an input holds, if it holds one and nothing more. -/
theorem decodeBytes_eq_ok_iff {input b : Bytes} :
    decodeBytes input = .ok b ↔ b.length < UInt32.size ∧ input = encodeBytes b := by
  constructor
  · intro h
    unfold decodeBytes Reader.complete at h
    split at h
    · next hread =>
      cases h
      obtain ⟨hb, hinput⟩ := bytes_eq_ok hread
      rw [List.append_nil] at hinput
      exact ⟨hb, hinput⟩
    · cases h
    · cases h
  · rintro ⟨hb, rfl⟩
    exact decodeBytes_encodeBytes hb

theorem encodeBytes_ne_nil (b : Bytes) : encodeBytes b ≠ [] := by
  intro h
  have hlength := congrArg List.length (List.append_eq_nil_iff.1 h).1
  rw [length_encodeCompact, List.length_nil] at hlength
  grind

/-- A byte sequence behind its length tells which one it is, however long. -/
theorem encodeBytes_inj {a b : Bytes} (h : encodeBytes a = encodeBytes b) : a = b := by
  have hlengths := congrArg List.length h
  unfold encodeBytes at h hlengths
  rw [List.length_append, List.length_append] at hlengths
  have hsame : a.length = b.length := by
    rcases Nat.le_total a.length b.length with hle | hle
    · have hforms := length_encodeCompact_mono hle
      omega
    · have hforms := length_encodeCompact_mono hle
      omega
  rw [hsame] at h
  exact List.append_cancel_left h

namespace Codec

variable {α β : Type}

/-- The reader takes nothing but what is written for a value that fits. -/
def Exact (c : Codec α) : Prop :=
  ∀ input x rest, c.read input = .ok (x, rest) → c.Fits x ∧ input = c.encode x ++ rest

theorem fixed_exact (n : Nat) : (fixed n).Exact := fun _ _ _ h =>
  ⟨trivial, Reader.fixed_eq_ok h⟩

theorem compactWord_exact : compactWord.Exact := by
  intro input x rest h
  unfold compactWord at h
  cases hread : compact .u32 input with
  | error e =>
    simp only [hread] at h
    cases h
  | ok result =>
    obtain ⟨n, middle⟩ := result
    simp only [hread] at h
    cases h
    obtain ⟨hn, rfl⟩ := compact_eq_ok hread
    have hback : (UInt32.ofNat n).toNat = n := UInt32.toNat_ofNat_of_lt' hn
    refine ⟨trivial, ?_⟩
    show _ = encodeCompact (UInt32.ofNat n).toNat ++ rest
    rw [hback]

theorem compactWide_exact : compactWide.Exact := by
  intro input x rest h
  unfold compactWide at h
  cases hread : compact .u128 input with
  | error e =>
    simp only [hread] at h
    cases h
  | ok result =>
    obtain ⟨n, middle⟩ := result
    simp only [hread] at h
    cases h
    obtain ⟨hn, rfl⟩ := compact_eq_ok hread
    have hback : (BitVec.ofNat 128 n).toNat = n := by
      rw [BitVec.toNat_ofNat]
      exact Nat.mod_eq_of_lt hn
    refine ⟨trivial, ?_⟩
    show _ = encodeCompact (BitVec.ofNat 128 n).toNat ++ rest
    rw [hback]

theorem Exact.pair {c : Codec α} {d : Codec β} (hc : c.Exact) (hd : d.Exact) :
    (c.pair d).Exact := by
  rintro input ⟨x, y⟩ rest h
  obtain ⟨x', middle, hx, h⟩ := Reader.bind_eq_ok_iff.1 h
  obtain ⟨y', last, hy, h⟩ := Reader.bind_eq_ok_iff.1 h
  cases h
  obtain ⟨hfitsx, rfl⟩ := hc _ _ _ hx
  obtain ⟨hfitsy, rfl⟩ := hd _ _ _ hy
  exact ⟨⟨hfitsx, hfitsy⟩, (List.append_assoc _ _ _).symm⟩

theorem Exact.iso {c : Codec α} (hc : c.Exact) {rebuild : α → β} {back : β → α}
    (h : ∀ x, back (rebuild x) = x) : (c.iso rebuild back).Exact := by
  intro input y rest hread
  unfold Codec.iso at hread
  cases hx : c.read input with
  | error e =>
    simp only [hx] at hread
    cases hread
  | ok result =>
    obtain ⟨x, middle⟩ := result
    simp only [hx] at hread
    cases hread
    have hexact := hc _ _ _ hx
    rw [← h x] at hexact
    exact hexact

theorem Exact.field {c : Codec α} (hc : c.Exact) (path : String) : (c.field path).Exact := by
  intro input x rest h
  refine hc input x rest ?_
  unfold Codec.field Reader.field Reader.inside at h
  cases hx : c.read input with
  | error e =>
    simp only [hx] at h
    cases h
  | ok result =>
    simp only [hx] at h
    cases h
    rfl

/-- What an exact codec that reads back takes from an input, and when. -/
theorem Exact.read_eq_ok_iff {c : Codec α} (hexact : c.Exact) (hback : c.ReadsBack)
    {input rest : Bytes} {x : α} :
    c.read input = .ok (x, rest) ↔ c.Fits x ∧ input = c.encode x ++ rest := by
  constructor
  · exact hexact input x rest
  · rintro ⟨hfits, rfl⟩
    exact hback x rest hfits

end Codec

end MetaLedger.Scale
