import Mathlib.Data.List.Infix
import MetaLedger.Text.Search

/-!
# What a search finds

A search finds a part wherever it stands (`occursIn_iff`). Behind a text that overlaps with the part at no
place, it finds what it finds without that text (`infix_append_iff_of_apart`). A part made of digits
stands there as a number of its own, or in a longer number (`infix_iff_alone_or_inNumber`): a search does
not tell the two apart.
-/

namespace MetaLedger.Text

/-! ## Parts -/

theorem isPartOf_iff {part text : List Char} : isPartOf part text = true ↔ part <:+: text := by
  induction text with
  | nil => rw [isPartOf, List.isEmpty_iff, List.infix_nil]
  | cons c rest ih =>
    rw [isPartOf, Bool.or_eq_true, ih, List.isPrefixOf_iff_prefix, List.infix_cons_iff]

theorem occursIn_iff {part s : String} : occursIn part s = true ↔ part.toList <:+: s.toList :=
  isPartOf_iff

/-- Wherever the part sets out in the text, it comes to a character that differs before either ends. -/
def Apart (part text : List Char) : Prop :=
  ∀ suffix ∈ text.tails, suffix ≠ [] → ¬suffix <+: part ∧ ¬part <+: suffix

instance (part text : List Char) : Decidable (Apart part text) :=
  inferInstanceAs (Decidable (∀ suffix ∈ text.tails, _))

theorem infix_append_iff_of_apart {part front back : List Char} (h : Apart part front) :
    part <:+: front ++ back ↔ part <:+: back := by
  induction front with
  | nil => rfl
  | cons c front ih =>
    have hrest : Apart part front := by
      intro suffix hsuffix
      refine h suffix ?_
      rw [List.tails_cons]
      exact List.mem_cons_of_mem _ hsuffix
    have hfirst : ¬part <+: c :: front ++ back := by
      obtain ⟨hshort, hlong⟩ := h (c :: front) (by simp) (List.cons_ne_nil c front)
      intro hpart
      rcases List.prefix_or_prefix_of_prefix hpart (List.prefix_append (c :: front) back) with
        hle | hle
      · exact hlong hle
      · exact hshort hle
    rw [List.cons_append, List.infix_cons_iff, ih hrest]
    exact or_iff_right hfirst

/-! ## Capital and small letters -/

theorem toList_lower (s : String) : (lower s).toList = s.toList.map Char.toLower :=
  String.toList_ofList

theorem lower_append (s t : String) : lower (s ++ t) = lower s ++ lower t := by
  apply String.toList_inj.1
  rw [toList_lower, String.toList_append, List.map_append, String.toList_append, toList_lower,
    toList_lower]

theorem toLower_of_isDigit {c : Char} (h : c.isDigit = true) : c.toLower = c := by
  unfold Char.toLower
  split
  · next hcapital =>
    have hle : c.val ≤ 57 := by
      simp only [Char.isDigit, Bool.and_eq_true, decide_eq_true_eq] at h
      exact h.2
    exact absurd (UInt32.le_trans hcapital.1 hle) (by decide)
  · rfl

/-- No letter is lowered to a digit. -/
theorem eq_of_isDigit_toLower {c : Char} (h : c.toLower.isDigit = true) : c.toLower = c := by
  unfold Char.toLower at h ⊢
  split
  · next hcapital =>
    rw [dif_pos hcapital, Char.isDigit, Bool.and_eq_true] at h
    have hdigit : (c.val + ('a'.val - 'A'.val)).toNat ≤ 57 :=
      UInt32.le_iff_toNat_le.1 (of_decide_eq_true h.2)
    have hlow : 65 ≤ c.val.toNat := UInt32.le_iff_toNat_le.1 hcapital.1
    have hhigh : c.val.toNat ≤ 90 := UInt32.le_iff_toNat_le.1 hcapital.2
    have hshift : ('a'.val - 'A'.val).toNat = 32 := rfl
    rw [UInt32.toNat_add, hshift] at hdigit
    omega
  · rfl

/-- Digits stand in a text where they stand in it with its capital letters lowered. -/
theorem infix_lower_iff {part : List Char} (hpart : ∀ c ∈ part, c.isDigit = true) {s : String} :
    part <:+: (lower s).toList ↔ part <:+: s.toList := by
  rw [toList_lower]
  constructor
  · rintro ⟨front, back, h⟩
    obtain ⟨before, after, hs, hbefore, -⟩ := List.map_eq_append_iff.1 h.symm
    obtain ⟨first, digits, rfl, -, hdigits⟩ := List.map_eq_append_iff.1 hbefore
    have hsame : digits.map Char.toLower = digits := by
      refine List.map_congr_left (fun c hc => ?_) |>.trans (List.map_id _)
      exact eq_of_isDigit_toLower (hpart _ (hdigits ▸ List.mem_map_of_mem hc))
    rw [← hdigits, hsame, hs]
    exact ⟨first, after, rfl⟩
  · intro h
    have hsame : part.map Char.toLower = part :=
      (List.map_congr_left fun c hc => toLower_of_isDigit (hpart c hc)).trans (List.map_id _)
    exact hsame ▸ h.map Char.toLower

/-! ## Numbers -/

/-- There is a digit at a side of what stands between two texts. -/
def digitsAround (front back : List Char) : Bool :=
  front.getLast?.any Char.isDigit || back.head?.any Char.isDigit

/-- The part stands in the text with no digit on either side. -/
def StandsAlone (part text : List Char) : Prop :=
  ∃ front back, text = front ++ part ++ back ∧ digitsAround front back = false

/-- The part stands in the text with a digit at its side. -/
def StandsInNumber (part text : List Char) : Prop :=
  ∃ front back, text = front ++ part ++ back ∧ digitsAround front back = true

theorem infix_iff_alone_or_inNumber {part text : List Char} :
    part <:+: text ↔ StandsAlone part text ∨ StandsInNumber part text := by
  constructor
  · rintro ⟨front, back, rfl⟩
    cases hsides : digitsAround front back with
    | false => exact .inl ⟨front, back, rfl, hsides⟩
    | true => exact .inr ⟨front, back, rfl, hsides⟩
  · rintro (⟨front, back, rfl, -⟩ | ⟨front, back, rfl, -⟩)
    · exact ⟨front, back, rfl⟩
    · exact ⟨front, back, rfl⟩

/-- Where a part stands is told by how many characters are before it. -/
theorem exists_split_iff {part text : List Char} {P : List Char → List Char → Prop} :
    (∃ front back, text = front ++ part ++ back ∧ P front back) ↔
      ∃ i < text.length + 1, text = text.take i ++ part ++ text.drop (i + part.length) ∧
        P (text.take i) (text.drop (i + part.length)) := by
  constructor
  · rintro ⟨front, back, rfl, h⟩
    have hfront : (front ++ part ++ back).take front.length = front := by simp
    have hback : (front ++ part ++ back).drop (front.length + part.length) = back := by
      rw [← List.length_append, List.drop_left]
    refine ⟨front.length, ?_, ?_, ?_⟩
    · simp only [List.length_append]
      omega
    · rw [hfront, hback]
    · rwa [hfront, hback]
  · rintro ⟨i, -, htext, h⟩
    exact ⟨_, _, htext, h⟩

instance (part text : List Char) : Decidable (StandsAlone part text) :=
  decidable_of_iff _ exists_split_iff.symm

instance (part text : List Char) : Decidable (StandsInNumber part text) :=
  decidable_of_iff _ exists_split_iff.symm

end MetaLedger.Text
