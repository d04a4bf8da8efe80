import MetaLedger.Scale.Codec

/-!
# What is written is read back

A codec *reads back* when its reader, put in front of what the codec has written for a value that
fits, takes exactly that and hands back the value and the rest. The rest is arbitrary, so codecs that
read back can be put one after the other (`ReadsBack.pair`), and no written form is the beginning of
another one (`ReadsBack.encode_append_inj`).

The compact integers are the only codec with an argument of its own: the four forms split the
numbers by size, and the reader asks of each form that the number is in its part.
-/

namespace MetaLedger

/-! ## Integers of a fixed width -/

theorem Bytes.bound_eq_shiftLeft (width : Nat) : Bytes.bound width = 1 <<< (8 * width) := by
  induction width with
  | zero => rfl
  | succ width ih =>
    rw [bound, ih, Nat.mul_succ, Nat.shiftLeft_add]
    simp only [Nat.shiftLeft_eq]
    omega

namespace Scale

theorem Reader.fixed_append {n : Nat} (b : Fixed n) (rest : Bytes) :
    Reader.fixed n (b.toList ++ rest) = .ok (b, rest) := by
  have htake : (b.toList ++ rest).take n = b.toList := by
    rw [List.take_append_of_le_length (Nat.le_of_eq b.length_eq.symm)]
    exact List.take_of_length_le (Nat.le_of_eq b.length_eq)
  have hdrop : (b.toList ++ rest).drop n = rest := by
    rw [List.drop_append_of_le_length (Nat.le_of_eq b.length_eq.symm),
      List.drop_of_length_le (Nat.le_of_eq b.length_eq), List.nil_append]
  simp only [Reader.fixed, htake, hdrop, Fixed.ofList?_toList]

theorem Reader.natLE_append {width n : Nat} (h : n < Bytes.bound width) (rest : Bytes) :
    Reader.natLE width (Bytes.ofNatLE width n ++ rest) = .ok (n, rest) := by
  have hread := Reader.fixed_append ⟨Bytes.ofNatLE width n, Bytes.length_ofNatLE width n⟩ rest
  rw [Reader.natLE, Reader.bind_apply, hread]
  simp only [Reader.pure_apply, Bytes.toNatLE_ofNatLE h]

/-! ## Compact integers -/

section Compact

variable {width : Width} {n : Nat}

theorem lt_bound_byteLength (n : Nat) : n < Bytes.bound (byteLength n) := by
  rw [Bytes.bound_eq_shiftLeft, Nat.one_shiftLeft]
  refine Nat.lt_of_lt_of_le Nat.lt_log2_self (Nat.pow_le_pow_right (by omega) ?_)
  unfold byteLength
  omega

theorem bound_pred_byteLength_le (h : n ≠ 0) : Bytes.bound (byteLength n - 1) ≤ n := by
  rw [Bytes.bound_eq_shiftLeft, Nat.one_shiftLeft]
  refine Nat.le_trans (Nat.pow_le_pow_right (by omega) ?_) (Nat.log2_self_le h)
  unfold byteLength
  omega

theorem byteLength_le {size : Nat} (h : n < Bytes.bound size) (hn : n ≠ 0) :
    byteLength n ≤ size := by
  rw [Bytes.bound_eq_shiftLeft, Nat.one_shiftLeft] at h
  have hlog : n.log2 < 8 * size := (Nat.log2_lt hn).2 h
  unfold byteLength
  omega

theorem four_le_byteLength (h : fourByteBound ≤ n) : 4 ≤ byteLength n := by
  have hn : n ≠ 0 := by
    unfold fourByteBound at h
    omega
  have hlog : ¬n.log2 < 30 := fun hlt => by
    have := (Nat.log2_lt hn).1 hlt
    unfold fourByteBound at h
    omega
  unfold byteLength
  omega

theorem inRange_ok {low high : Nat} (hlow : low ≤ n) (hhigh : n < high) (bytes : Bytes) :
    inRange width low high n bytes = .ok (n, bytes) := by
  simp only [inRange, hlow, hhigh, and_self, if_true, Reader.pure_apply]

theorem toNat_ofNat_byte {m : Nat} (h : m < 256) : (UInt8.ofNat m).toNat = m := by
  rw [UInt8.toNat_ofNat']
  exact Nat.mod_eq_of_lt h

/-- Longer forms share their first byte with the low bits of the number. -/
theorem ofNatLE_succ_append (k m : Nat) (rest : Bytes) :
    Bytes.ofNatLE (k + 1) m ++ rest = UInt8.ofNat m :: (Bytes.ofNatLE k (m / 256) ++ rest) := rfl

theorem compact_oneByte (h : n < oneByteBound) (rest : Bytes) :
    compact width (Bytes.ofNatLE 1 (4 * n) ++ rest) = .ok (n, rest) := by
  unfold oneByteBound at h
  have hfirst : (UInt8.ofNat (4 * n)).toNat = 4 * n := toNat_ofNat_byte (by omega)
  have hform : 4 * n % 4 = 0 := by omega
  have hlow : 4 * n / 4 = n := by omega
  rw [ofNatLE_succ_append]
  unfold compact
  rw [Reader.bind_apply]
  simp only [Reader.byte, hfirst, hform, hlow, Reader.pure_apply]
  rfl

theorem compact_twoByte (hlow : oneByteBound ≤ n) (hhigh : n < twoByteBound) (rest : Bytes) :
    compact width (Bytes.ofNatLE 2 (4 * n + 1) ++ rest) = .ok (n, rest) := by
  have hn : n < 16384 := hhigh
  have hfirst : (UInt8.ofNat (4 * n + 1)).toNat = (4 * n + 1) % 256 := UInt8.toNat_ofNat'
  have hform : (4 * n + 1) % 256 % 4 = 1 := by omega
  have hhead : (4 * n + 1) / 256 < Bytes.bound 1 := by
    simp only [Bytes.bound]
    omega
  have hsum : (4 * n + 1) % 256 / 4 + 64 * ((4 * n + 1) / 256) = n := by omega
  rw [ofNatLE_succ_append]
  unfold compact
  rw [Reader.bind_apply]
  simp only [Reader.byte, hfirst, hform, Reader.bind_apply, Reader.natLE_append hhead, hsum]
  exact inRange_ok hlow hhigh rest

theorem compact_fourByte (hlow : twoByteBound ≤ n) (hhigh : n < fourByteBound) (rest : Bytes) :
    compact width (Bytes.ofNatLE 4 (4 * n + 2) ++ rest) = .ok (n, rest) := by
  have hn : n < 1073741824 := hhigh
  have hfirst : (UInt8.ofNat (4 * n + 2)).toNat = (4 * n + 2) % 256 := UInt8.toNat_ofNat'
  have hform : (4 * n + 2) % 256 % 4 = 2 := by omega
  have hhead : (4 * n + 2) / 256 < Bytes.bound 3 := by
    simp only [Bytes.bound]
    omega
  have hsum : (4 * n + 2) % 256 / 4 + 64 * ((4 * n + 2) / 256) = n := by omega
  rw [ofNatLE_succ_append]
  unfold compact
  rw [Reader.bind_apply]
  simp only [Reader.byte, hfirst, hform, Reader.bind_apply, Reader.natLE_append hhead, hsum]
  exact inRange_ok hlow hhigh rest

theorem compact_manyBytes (hlow : fourByteBound ≤ n) (hhigh : n < Bytes.bound width.bytes)
    (rest : Bytes) :
    compact width (UInt8.ofNat (4 * (byteLength n - 4) + 3) :: Bytes.ofNatLE (byteLength n) n ++ rest)
      = .ok (n, rest) := by
  have hn : n ≠ 0 := by
    unfold fourByteBound at hlow
    omega
  have hmin : 4 ≤ byteLength n := four_le_byteLength hlow
  have hmax : byteLength n ≤ width.bytes := byteLength_le hhigh hn
  have hwidth : width.bytes ≤ 16 := by cases width <;> decide
  have hfirst : (UInt8.ofNat (4 * (byteLength n - 4) + 3)).toNat = 4 * (byteLength n - 4) + 3 :=
    toNat_ofNat_byte (by omega)
  have hform : (4 * (byteLength n - 4) + 3) % 4 = 3 := by omega
  have hsize : (4 * (byteLength n - 4) + 3) / 4 + 4 = byteLength n := by omega
  have hrange : (if byteLength n = 4 then fourByteBound else Bytes.bound (byteLength n - 1)) ≤ n := by
    split
    · exact hlow
    · exact bound_pred_byteLength_le hn
  rw [List.cons_append]
  unfold compact
  rw [Reader.bind_apply]
  simp only [Reader.byte, hfirst, hform, hsize, hmax, if_true, Reader.bind_apply,
    Reader.natLE_append (lt_bound_byteLength n)]
  exact inRange_ok hrange (lt_bound_byteLength n) rest

/-- The compact form of a number within a width is read back. -/
theorem compact_encodeCompact (h : n < Bytes.bound width.bytes) (rest : Bytes) :
    compact width (encodeCompact n ++ rest) = .ok (n, rest) := by
  unfold encodeCompact
  split
  · next one => exact compact_oneByte one rest
  · next one =>
    split
    · next two => exact compact_twoByte (Nat.not_lt.1 one) two rest
    · next two =>
      split
      · next four => exact compact_fourByte (Nat.not_lt.1 two) four rest
      · next four => exact compact_manyBytes (Nat.not_lt.1 four) h rest

end Compact

theorem bytes_apply (input : Bytes) :
    bytes input = match compact .u32 input with
      | .ok (n, rest) =>
        if n ≤ rest.length then .ok (rest.take n, rest.drop n) else .error .sequenceTooShort
      | .error e => .error e := by
  show Reader.bind _ _ input = _
  unfold Reader.bind
  rcases compact .u32 input with e | ⟨n, rest⟩ <;> rfl

/-- A byte sequence behind its length is read back. -/
theorem bytes_encodeBytes {b : Bytes} (h : b.length < UInt32.size) (rest : Bytes) :
    bytes (encodeBytes b ++ rest) = .ok (b, rest) := by
  have hlength : b.length < Bytes.bound Width.u32.bytes := h
  have henough : b.length ≤ (b ++ rest).length := by
    rw [List.length_append]
    omega
  rw [bytes_apply, encodeBytes, List.append_assoc, compact_encodeCompact hlength]
  simp only [henough, if_true, List.take_left, List.drop_left]

theorem decodeBytes_encodeBytes {b : Bytes} (h : b.length < UInt32.size) :
    decodeBytes (encodeBytes b) = .ok b := by
  have hread := bytes_encodeBytes h []
  rw [List.append_nil] at hread
  rw [decodeBytes, Reader.complete, hread]

/-! ## Codecs -/

namespace Codec

variable {α β : Type}

/-- The reader takes what was written for a value, and nothing of what follows. -/
def ReadsBack (c : Codec α) : Prop :=
  ∀ x rest, c.Fits x → c.read (c.encode x ++ rest) = .ok (x, rest)

/-- No written form is the beginning of another one. -/
theorem ReadsBack.encode_append_inj {c : Codec α} (hc : c.ReadsBack) {x y : α} {a b : Bytes}
    (hx : c.Fits x) (hy : c.Fits y) (h : c.encode x ++ a = c.encode y ++ b) : x = y ∧ a = b := by
  have hread := hc x a hx
  rw [h, hc y b hy] at hread
  cases hread
  exact ⟨rfl, rfl⟩

theorem fixed_readsBack (n : Nat) : (fixed n).ReadsBack := fun b rest _ =>
  Reader.fixed_append b rest

theorem word_readsBack : word.ReadsBack := fun n rest _ => by
  have hread : Reader.natLE 4 (Bytes.ofNatLE 4 n.toNat ++ rest) = .ok (n.toNat, rest) :=
    Reader.natLE_append n.toNat_lt rest
  simp only [word, hread, UInt32.ofNat_toNat]

theorem wide_readsBack : wide.ReadsBack := fun n rest _ => by
  have hread : Reader.natLE 16 (Bytes.ofNatLE 16 n.toNat ++ rest) = .ok (n.toNat, rest) :=
    Reader.natLE_append n.isLt rest
  simp only [wide, hread, BitVec.ofNat_toNat, BitVec.setWidth_eq]

theorem compactWord_readsBack : compactWord.ReadsBack := fun n rest _ => by
  have hread : compact .u32 (encodeCompact n.toNat ++ rest) = .ok (n.toNat, rest) :=
    compact_encodeCompact n.toNat_lt rest
  simp only [compactWord, hread, UInt32.ofNat_toNat]

theorem compactWide_readsBack : compactWide.ReadsBack := fun n rest _ => by
  have hread : compact .u128 (encodeCompact n.toNat ++ rest) = .ok (n.toNat, rest) :=
    compact_encodeCompact n.isLt rest
  simp only [compactWide, hread, BitVec.ofNat_toNat, BitVec.setWidth_eq]

theorem bytes_readsBack : bytes.ReadsBack := fun _ rest h => bytes_encodeBytes h rest

theorem ReadsBack.pair {c : Codec α} {d : Codec β} (hc : c.ReadsBack) (hd : d.ReadsBack) :
    (c.pair d).ReadsBack := by
  rintro ⟨x, y⟩ rest ⟨hx, hy⟩
  show (c.read >>= fun a => d.read >>= fun b => pure (a, b)) (c.encode x ++ d.encode y ++ rest) = _
  rw [List.append_assoc, Reader.bind_apply, hc x _ hx]
  simp only [Reader.bind_apply, hd y rest hy, Reader.pure_apply]

theorem ReadsBack.iso {c : Codec α} (hc : c.ReadsBack) {rebuild : α → β} {back : β → α}
    (h : ∀ y, rebuild (back y) = y) : (c.iso rebuild back).ReadsBack := fun y rest hy => by
  have hread : c.read (c.encode (back y) ++ rest) = .ok (back y, rest) := hc _ rest hy
  simp only [Codec.iso, hread, h]

theorem ReadsBack.field {c : Codec α} (hc : c.ReadsBack) (path : String) :
    (c.field path).ReadsBack := fun x rest hx => by
  have hread : c.read (c.encode x ++ rest) = .ok (x, rest) := hc x rest hx
  simp only [Codec.field, Reader.field, Reader.inside, hread]

end Codec

/-- Two byte sequences behind their lengths begin alike only if they are the same. -/
theorem encodeBytes_append_inj {a b x y : Bytes} (ha : a.length < UInt32.size)
    (hb : b.length < UInt32.size) (h : encodeBytes a ++ x = encodeBytes b ++ y) : a = b ∧ x = y :=
  Codec.bytes_readsBack.encode_append_inj ha hb h

end Scale

end MetaLedger
