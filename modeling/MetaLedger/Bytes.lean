/-!
# Byte strings

A byte string is a list of bytes. Integers of a fixed width are written least significant byte
first (`ofNatLE`), and read back with `toNatLE`; the two are inverse on values that fit
(`toNatLE_ofNatLE`) and on strings of that width (`ofNatLE_toNatLE`). `Fixed n` is a byte string of
exactly `n` bytes: digests, account ids and signatures are such strings, so their length is never
checked again.

Byte strings are ordered lexicographically, byte by byte, by the order of lists.
-/

namespace MetaLedger

/-- A byte string. -/
abbrev Bytes := List UInt8

namespace Bytes

/-- The `width` low bytes of `n`, least significant first. -/
def ofNatLE : Nat → Nat → Bytes
  | 0, _ => []
  | width + 1, n => UInt8.ofNat n :: ofNatLE width (n / 256)

/-- The number whose bytes are given, least significant first. -/
def toNatLE : Bytes → Nat
  | [] => 0
  | b :: rest => b.toNat + 256 * toNatLE rest

/-- The least number that does not fit into `width` bytes. -/
def bound : Nat → Nat
  | 0 => 1
  | width + 1 => 256 * bound width

@[simp] theorem length_ofNatLE (width n : Nat) : (ofNatLE width n).length = width := by
  induction width generalizing n with
  | zero => rfl
  | succ width ih => simp [ofNatLE, ih]

theorem toNatLE_ofNatLE_mod (width n : Nat) : toNatLE (ofNatLE width n) = n % bound width := by
  induction width generalizing n with
  | zero => simp [ofNatLE, toNatLE, bound, Nat.mod_one]
  | succ width ih =>
    have byte : (UInt8.ofNat n).toNat = n % 256 := UInt8.toNat_ofNat'
    rw [ofNatLE, toNatLE, ih, byte, bound, Nat.mod_mul]

theorem toNatLE_ofNatLE {width n : Nat} (h : n < bound width) :
    toNatLE (ofNatLE width n) = n := by
  rw [toNatLE_ofNatLE_mod, Nat.mod_eq_of_lt h]

theorem toNatLE_lt (bytes : Bytes) : toNatLE bytes < bound bytes.length := by
  induction bytes with
  | nil => simp [toNatLE, bound]
  | cons b rest ih =>
    have := b.toNat_lt
    simp only [toNatLE, List.length_cons, bound]
    omega

theorem ofNatLE_toNatLE (bytes : Bytes) : ofNatLE bytes.length (toNatLE bytes) = bytes := by
  induction bytes with
  | nil => rfl
  | cons b rest ih =>
    have hb := b.toNat_lt
    simp only [toNatLE, List.length_cons, ofNatLE]
    have hhead : UInt8.ofNat (b.toNat + 256 * toNatLE rest) = b := by
      apply UInt8.toNat_inj.mp
      rw [UInt8.toNat_ofNat']
      omega
    have htail : (b.toNat + 256 * toNatLE rest) / 256 = toNatLE rest := by omega
    rw [hhead, htail, ih]

/-- The UTF-8 bytes of a text. -/
def ofString (s : String) : Bytes := s.toByteArray.data.toList

/-- The text whose UTF-8 bytes are given, if they are valid UTF-8. -/
def toString? (bytes : Bytes) : Option String := String.fromUTF8? ⟨bytes.toArray⟩

@[simp] theorem toString?_ofString (s : String) : toString? (ofString s) = some s := by
  simp [toString?, ofString, String.fromUTF8?, String.fromUTF8, s.isValidUTF8]

theorem ofString_of_toString? {bytes : Bytes} {s : String} (h : toString? bytes = some s) :
    ofString s = bytes := by
  simp only [toString?, String.fromUTF8?] at h
  split at h
  · cases h
    simp [ofString, String.fromUTF8]
  · cases h

/-- What remains of `bytes` after `start`, if `bytes` begins with it. -/
def dropPrefix? : Bytes → Bytes → Option Bytes
  | [], bytes => some bytes
  | _ :: _, [] => none
  | p :: start, b :: bytes => if p = b then dropPrefix? start bytes else none

theorem dropPrefix?_eq_some_iff {start bytes rest : Bytes} :
    dropPrefix? start bytes = some rest ↔ bytes = start ++ rest := by
  induction start generalizing bytes with
  | nil => simp [dropPrefix?]
  | cons p start ih =>
    cases bytes with
    | nil => simp [dropPrefix?]
    | cons b bytes =>
      by_cases h : p = b
      · simp [dropPrefix?, h, ih]
      · simp [dropPrefix?, h, Ne.symm h]

end Bytes

/-! ## Byte strings of a fixed length -/

/-- A byte string of exactly `n` bytes. -/
@[ext] structure Fixed (n : Nat) where
  toList : Bytes
  length_eq : toList.length = n
deriving DecidableEq

namespace Fixed

variable {n : Nat}

/-- The byte string `bytes`, if it has `n` bytes. -/
def ofList? (n : Nat) (bytes : Bytes) : Option (Fixed n) :=
  if h : bytes.length = n then some ⟨bytes, h⟩ else none

/-- The bytes of a vector. -/
def ofVector (bytes : Vector UInt8 n) : Fixed n := ⟨bytes.toList, by simp⟩

/-- The string of `n` zero bytes. -/
def zero (n : Nat) : Fixed n := ⟨List.replicate n 0, by simp⟩

@[simp] theorem ofList?_toList (b : Fixed n) : ofList? n b.toList = some b := by
  simp [ofList?, b.length_eq]

theorem ofList?_eq_some_iff {bytes : Bytes} {b : Fixed n} :
    ofList? n bytes = some b ↔ bytes = b.toList := by
  constructor
  · intro h
    simp only [ofList?] at h
    split at h
    · cases h; rfl
    · cases h
  · rintro rfl; simp

instance : Inhabited (Fixed n) := ⟨zero n⟩

end Fixed

end MetaLedger
