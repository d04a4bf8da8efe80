import MetaLedger.Proofs.Scale.Canonical

/-!
# One written form for lists, options and alternatives

A codec is *canonical* when it reads a value off the front of an input exactly if the input begins with
what it writes for the value. Records, lists, optional values and alternatives behind a mark are
canonical if their parts are. Two things follow for any input, well formed or not: what follows a
value has no part in reading it, and an input that stops within the written form is not read at all
(`Canonical.read_eq_error_of_cut`).
-/

namespace MetaLedger.Scale

/-! ## Readers -/

namespace Reader

variable {α β : Type}

/-- A value that is made of what is read. -/
theorem map_eq_ok_iff {r : Reader α} {make : α → β} {input rest : Bytes} {y : β} :
    (do return make (← r) : Reader β) input = .ok (y, rest) ↔
      ∃ x, r input = .ok (x, rest) ∧ make x = y := by
  rw [bind_eq_ok_iff]
  constructor
  · rintro ⟨x, middle, hx, hy⟩
    cases hy
    exact ⟨x, hx, rfl⟩
  · rintro ⟨x, hx, rfl⟩
    exact ⟨x, rest, hx, rfl⟩

/-- What is read behind a mark. -/
theorem byte_bind_eq_ok_iff {f : UInt8 → Reader α} {input rest : Bytes} {y : α} :
    (byte >>= f) input = .ok (y, rest) ↔
      ∃ mark middle, input = mark :: middle ∧ f mark middle = .ok (y, rest) := by
  simp only [bind_eq_ok_iff, byte_eq_ok_iff]

theorem times_succ_eq_ok_iff {r : Reader α} {n : Nat} {input rest : Bytes} {xs : List α} :
    r.times (n + 1) input = .ok (xs, rest) ↔
      ∃ x middle, r input = .ok (x, middle) ∧
        ∃ others, r.times n middle = .ok (others, rest) ∧ x :: others = xs := by
  rw [times, bind_eq_ok_iff]
  simp only [map_eq_ok_iff]

end Reader

/-! ## Marks -/

/-- Where values are marked by their positions in a list, a value has one mark. -/
theorem mark_eq_of_getElem? {α : Type} [DecidableEq α] {all : List α} (hnodup : all.Nodup)
    {mark : UInt8} {x : α} (h : all[mark.toNat]? = some x) :
    mark = UInt8.ofNat (all.idxOf x) := by
  obtain ⟨hlt, rfl⟩ := List.getElem?_eq_some_iff.1 h
  rw [hnodup.idxOf_getElem, UInt8.ofNat_toNat]

/-! ## Codecs -/

namespace Codec

variable {α β : Type}

/-- A value is read off an input if the input begins with its written form, and not otherwise. -/
def Canonical (c : Codec α) : Prop :=
  ∀ input x rest, c.read input = .ok (x, rest) ↔ c.Fits x ∧ input = c.encode x ++ rest

theorem Exact.canonical {c : Codec α} (hexact : c.Exact) (hback : c.ReadsBack) : c.Canonical :=
  fun _ _ _ => hexact.read_eq_ok_iff hback

namespace Canonical

variable {c : Codec α} {d : Codec β}

theorem read_eq_ok_iff (h : c.Canonical) {input rest : Bytes} {x : α} :
    c.read input = .ok (x, rest) ↔ c.Fits x ∧ input = c.encode x ++ rest := h input x rest

theorem readsBack (h : c.Canonical) : c.ReadsBack := fun _ _ hfits =>
  h.read_eq_ok_iff.2 ⟨hfits, rfl⟩

theorem exact (h : c.Canonical) : c.Exact := fun _ _ _ => h.read_eq_ok_iff.1

/-- A value that is made of another one is read if that one is. -/
theorem map_eq_ok_iff (h : c.Canonical) {make : α → β} {input rest : Bytes} {y : β} :
    (do return make (← c.read) : Reader β) input = .ok (y, rest) ↔
      ∃ x, c.Fits x ∧ input = c.encode x ++ rest ∧ make x = y := by
  simp only [Reader.map_eq_ok_iff, h.read_eq_ok_iff, and_assoc]

/-- No written form is the beginning of another. -/
theorem eq_of_prefix (h : c.Canonical) {x y : α} (hx : c.Fits x) (hy : c.Fits y)
    (hbegins : c.encode x <+: c.encode y) : x = y := by
  obtain ⟨more, hmore⟩ := hbegins
  have hsame : c.encode x ++ more = c.encode y ++ [] := by rw [hmore, List.append_nil]
  exact (h.readsBack.encode_append_inj hx hy hsame).1

/-- An input that stops within the written form of a value is not read. -/
theorem read_eq_error_of_cut (h : c.Canonical) {x : α} (hfits : c.Fits x) {cut : Bytes}
    (hbegins : cut <+: c.encode x) (hcut : cut ≠ c.encode x) : ∃ e, c.read cut = .error e := by
  cases hread : c.read cut with
  | error e => exact ⟨e, rfl⟩
  | ok result =>
    obtain ⟨y, rest⟩ := result
    obtain ⟨hy, rfl⟩ := h.read_eq_ok_iff.1 hread
    have hfront : c.encode y <+: c.encode x := (List.prefix_append _ _).trans hbegins
    obtain rfl := h.eq_of_prefix hy hfits hfront
    -- What was read is the whole of the written form, so nothing has been cut off.
    have hwhole := hbegins.length_le
    rw [List.length_append] at hwhole
    have hrest : rest = [] := List.eq_nil_of_length_eq_zero (by omega)
    rw [hrest, List.append_nil] at hcut
    exact absurd rfl hcut

theorem pair (hc : c.Canonical) (hd : d.Canonical) : (c.pair d).Canonical :=
  (hc.exact.pair hd.exact).canonical (hc.readsBack.pair hd.readsBack)

theorem iso (hc : c.Canonical) {rebuild : α → β} {back : β → α} (hback : ∀ x, back (rebuild x) = x)
    (hrebuild : ∀ y, rebuild (back y) = y) : (c.iso rebuild back).Canonical :=
  (hc.exact.iso hback).canonical (hc.readsBack.iso hrebuild)

theorem field (h : c.Canonical) (path : String) : (c.field path).Canonical :=
  (h.exact.field path).canonical (h.readsBack.field path)

theorem times_eq_ok_iff (h : c.Canonical) {n : Nat} {input rest : Bytes} {xs : List α} :
    c.read.times n input = .ok (xs, rest) ↔
      xs.length = n ∧ (∀ x ∈ xs, c.Fits x) ∧ input = xs.flatMap c.encode ++ rest := by
  induction n generalizing input xs with
  | zero =>
    constructor
    · intro hread
      cases hread
      exact ⟨rfl, nofun, rfl⟩
    · rintro ⟨hlength, -, rfl⟩
      obtain rfl := List.eq_nil_of_length_eq_zero hlength
      rfl
  | succ n ih =>
    simp only [Reader.times_succ_eq_ok_iff, ih, h.read_eq_ok_iff]
    constructor
    · rintro ⟨x, _, ⟨hx, rfl⟩, others, ⟨rfl, hothers, rfl⟩, rfl⟩
      exact ⟨rfl, List.forall_mem_cons.2 ⟨hx, hothers⟩, by simp⟩
    · rintro ⟨hlength, hfits, rfl⟩
      obtain ⟨x, others, rfl⟩ := List.exists_cons_of_length_eq_add_one hlength
      obtain ⟨hx, hothers⟩ := List.forall_mem_cons.1 hfits
      exact ⟨x, _, ⟨hx, by simp⟩, others, ⟨Nat.succ.inj hlength, hothers, rfl⟩, rfl⟩

theorem list (h : c.Canonical) : c.list.Canonical := by
  intro input xs rest
  show (compact .u32 >>= fun n => c.read.times n) input = _ ↔ _
  rw [Reader.bind_eq_ok_iff]
  simp only [compact_eq_ok_iff, h.times_eq_ok_iff]
  constructor
  · rintro ⟨_, _, ⟨hshort, rfl⟩, rfl, hfits, rfl⟩
    exact ⟨⟨hshort, hfits⟩, (List.append_assoc _ _ _).symm⟩
  · rintro ⟨⟨hshort, hfits⟩, rfl⟩
    exact ⟨xs.length, _, ⟨hshort, List.append_assoc _ _ _⟩, rfl, hfits, rfl⟩

theorem option (h : c.Canonical) : c.option.Canonical := by
  intro input x rest
  constructor
  · intro hread
    obtain ⟨mark, middle, rfl, hvalue⟩ := Reader.byte_bind_eq_ok_iff.1 hread
    split at hvalue
    · cases hvalue
      exact ⟨nofun, rfl⟩
    · obtain ⟨y, hfits, rfl, rfl⟩ := h.map_eq_ok_iff.1 hvalue
      refine ⟨?_, rfl⟩
      rintro _ ⟨⟩
      exact hfits
    · cases hvalue
  · rintro ⟨hfits, rfl⟩
    cases x with
    | none => rfl
    | some y => exact h.map_eq_ok_iff.2 ⟨y, hfits y rfl, rfl, rfl⟩

end Canonical

/-! ## Plain values -/

instance (b : Bytes) : Decidable (bytes.Fits b) := inferInstanceAs (Decidable (b.length < UInt32.size))

instance (s : String) : Decidable (text.Fits s) :=
  inferInstanceAs (Decidable ((Bytes.ofString s).length < UInt32.size))

theorem byte_canonical : byte.Canonical := fun input b rest => by
  show Reader.byte input = _ ↔ True ∧ input = b :: rest
  rw [Reader.byte_eq_ok_iff, true_and]

theorem word_canonical : word.Canonical := by
  refine Exact.canonical (fun input x rest h => ?_) word_readsBack
  unfold word at h
  cases hread : Reader.natLE 4 input with
  | error e =>
    simp only [hread] at h
    cases h
  | ok result =>
    obtain ⟨n, middle⟩ := result
    simp only [hread] at h
    cases h
    obtain ⟨hn, rfl⟩ := Reader.natLE_eq_ok hread
    have hback : (UInt32.ofNat n).toNat = n := UInt32.toNat_ofNat_of_lt' hn
    refine ⟨trivial, ?_⟩
    show _ = Bytes.ofNatLE 4 (UInt32.ofNat n).toNat ++ rest
    rw [hback]

theorem compactWord_canonical : compactWord.Canonical :=
  compactWord_exact.canonical compactWord_readsBack

theorem bytes_canonical : bytes.Canonical := fun _ _ _ => bytes_eq_ok_iff

/-- Every text has one sequence of bytes, and a sequence is of one text at most. -/
theorem text_canonical : text.Canonical := by
  intro input s rest
  show (Scale.bytes >>= _) input = _ ↔ _
  rw [Reader.bind_eq_ok_iff]
  constructor
  · rintro ⟨raw, middle, hraw, htext⟩
    obtain ⟨hshort, rfl⟩ := bytes_eq_ok_iff.1 hraw
    cases hfound : Bytes.toString? raw with
    | none =>
      rw [hfound] at htext
      cases htext
    | some found =>
      rw [hfound] at htext
      cases htext
      obtain rfl := Bytes.ofString_of_toString? hfound
      exact ⟨hshort, rfl⟩
  · rintro ⟨hshort, rfl⟩
    refine ⟨Bytes.ofString s, rest, bytes_eq_ok_iff.2 ⟨hshort, rfl⟩, ?_⟩
    rw [Bytes.toString?_ofString]
    rfl

end Codec

end MetaLedger.Scale
