import Mathlib.Data.List.Forall2
import MetaLedger.Json.Reader
import MetaLedger.Json.Writer

/-!
# Reading written JSON back

A value is read back from its compact text, if its text holds it exactly (`read?_write`): its numbers are
whole, and none of its texts lost half of a surrogate pair. The text of a value is looked at with what it
is written behind and what may follow it (`Spells`). What follows a number must not go on with it
(`Ends`), which is so of a comma and of the brackets.
-/

namespace MetaLedger.Json

/-! ## Numbers -/

/-- Nothing that would go on with a number. -/
def Ends (rest : List Char) : Prop :=
  ∀ c tail, rest = c :: tail → isDigit c = false ∧ c ≠ '.' ∧ c ≠ 'e' ∧ c ≠ 'E'

theorem ends_nil : Ends [] := nofun

theorem ends_cons {c : Char} {tail : List Char}
    (h : isDigit c = false ∧ c ≠ '.' ∧ c ≠ 'e' ∧ c ≠ 'E') : Ends (c :: tail) := by
  rintro _ _ ⟨⟩
  exact h

section Digits

variable {digits rest : List Char} (hdigits : ∀ c ∈ digits, isDigit c = true) (hends : Ends rest)

include hdigits hends

theorem takeWhile_digits : (digits ++ rest).takeWhile isDigit = digits := by
  rw [List.takeWhile_append_of_pos hdigits]
  cases rest with
  | nil => exact List.append_nil digits
  | cons c tail => rw [List.takeWhile_cons, (hends c tail rfl).1, if_neg Bool.false_ne_true,
      List.append_nil]

theorem dropWhile_digits : (digits ++ rest).dropWhile isDigit = rest := by
  rw [List.dropWhile_append_of_pos hdigits]
  cases rest with
  | nil => rfl
  | cons c tail => rw [List.dropWhile_cons, (hends c tail rfl).1, if_neg Bool.false_ne_true]

end Digits

theorem isDigit_toDigits (n : Nat) : ∀ c ∈ Nat.toDigits 10 n, isDigit c = true := fun _ hc =>
  Nat.isDigit_of_mem_toDigits (by decide) (by decide) hc

/-- Only zero is written with a zero in front. -/
theorem toDigits_eq_cons {n : Nat} (hn : 0 < n) :
    ∃ d digits, Nat.toDigits 10 n = d :: digits ∧ d ≠ '0' := by
  induction n using Nat.strongRecOn with
  | ind n ih =>
    by_cases hsmall : n < 10
    · refine ⟨Nat.digitChar n, [], Nat.toDigits_of_lt_base hsmall, fun hzero => ?_⟩
      rw [Nat.digitChar_eq_zero.1 hzero] at hn
      exact Nat.lt_irrefl 0 hn
    · obtain ⟨d, digits, hdigits, hd⟩ := ih (n / 10) (by omega) (by omega)
      refine ⟨d, digits ++ [(n % 10).digitChar], ?_, hd⟩
      rw [Nat.toDigits_of_base_le (by decide) (Nat.not_lt.1 hsmall), hdigits]
      rfl

section Numeral

variable {n : Nat} {rest : List Char} (hends : Ends rest)

include hends

theorem readWhole_toDigits :
    readWhole (Nat.toDigits 10 n ++ rest) = some (Nat.toDigits 10 n, rest) := by
  by_cases hn : n = 0
  · rw [hn, Nat.toDigits_zero]
    cases rest with
    | nil => rfl
    | cons c tail =>
      show (if isDigit c = true then none else some (['0'], c :: tail)) = _
      rw [(hends c tail rfl).1, if_neg Bool.false_ne_true]
  · obtain ⟨d, digits, hcons, hd⟩ := toDigits_eq_cons (Nat.pos_of_ne_zero hn)
    have htake := takeWhile_digits (isDigit_toDigits n) hends
    have hdrop := dropWhile_digits (isDigit_toDigits n) hends
    rw [hcons, List.cons_append] at htake hdrop ⊢
    unfold readWhole
    split
    · rename_i heq
      exact absurd (List.cons.inj heq).1 hd
    · rename_i heq
      exact absurd (List.cons.inj heq).1 hd
    · rw [htake, hdrop]

theorem readFraction_of_ends : readFraction rest = some (none, rest) := by
  unfold readFraction
  split
  · exact absurd rfl (hends _ _ rfl).2.1
  · rfl

theorem readExponent_of_ends : readExponent rest = some (none, rest) := by
  cases rest with
  | nil => rfl
  | cons c tail =>
    obtain ⟨-, -, hsmall, hcapital⟩ := hends c tail rfl
    simp [readExponent, hsmall, hcapital]

theorem readNumeral_toDigits (negative : Bool) :
    readNumeral negative (Nat.toDigits 10 n ++ rest) =
      some (⟨negative, Nat.toDigits 10 n, none, none⟩, rest) := by
  unfold readNumeral
  rw [readWhole_toDigits hends]
  show (readFraction rest).bind _ = _
  rw [readFraction_of_ends hends]
  show (readExponent rest).bind _ = _
  rw [readExponent_of_ends hends]
  rfl

end Numeral

theorem digitsValue_toDigits (n : Nat) : digitsValue (Nat.toDigits 10 n) = n :=
  Nat.ofDigitChars_ten_toDigits

theorem number_of_natural {n : Nat} (hn : n < UInt64.size) :
    Numeral.number ⟨false, Nat.toDigits 10 n, none, none⟩ = .natural n := by
  simp [Numeral.number, digitsValue_toDigits, hn]

theorem number_of_negative {n : Nat} (hpos : 0 < n) (hn : n ≤ UInt64.size / 2) :
    Numeral.number ⟨true, Nat.toDigits 10 n, none, none⟩ = .negative n := by
  simp [Numeral.number, digitsValue_toDigits, hpos, hn]

/-! ## Texts -/

/-- How a character is written inside a text, and the piece it is read as. -/
structure Stroke (c : Char) (chunk : List Char) (piece : Piece) : Prop where
  written : ∀ out, (writeChar out c).toList = out.toList ++ chunk
  nonempty : 0 < chunk.length
  read : ∀ fuel seen rest,
    readPieces (fuel + 1) seen (chunk ++ rest) = readPieces fuel (piece :: seen) rest
  joined : ∀ seen pieces, joinPieces seen (piece :: pieces) = joinPieces (c :: seen) pieces

theorem Stroke.escaped {c d : Char}
    (hwritten : ∀ out, writeChar out c = out ++ String.ofList ['\\', d])
    (hescape : escapes.lookup d = some c) (hunit : d ≠ 'u') : Stroke c ['\\', d] (.char c) where
  written out := by rw [hwritten, String.toList_append, String.toList_ofList]
  nonempty := Nat.zero_lt_succ 1
  read fuel seen rest := by
    simp only [List.cons_append, List.nil_append]
    rw [readPieces, hescape]
    exact hunit
  joined _ _ := rfl

theorem Stroke.plain {c : Char} (hwritten : ∀ out, writeChar out c = out.push c)
    (hquote : c ≠ '"') (hslash : c ≠ '\\') (hcontrol : 32 ≤ c.toNat) : Stroke c [c] (.char c) where
  written out := by rw [hwritten, String.toList_push]
  nonempty := Nat.one_pos
  read fuel seen rest := by
    simp only [List.cons_append, List.nil_append]
    rw [readPieces]
    · have hplain : ¬(decide (c.toNat < 32) || decide (c = '\\')) = true := by
        simp only [Bool.or_eq_true, decide_eq_true_eq, hslash, or_false]
        omega
      rw [if_neg hplain]
    · exact hquote
    · exact fun _ heq _ => hslash heq
    · exact fun _ _ heq _ => hslash heq
  joined _ _ := rfl

/-- The four digits behind the mark of an escape by number. -/
def unitDigits (n : Nat) : List Char :=
  (if n < 16 then "000".toList else "00".toList) ++ Nat.toDigits 16 n

theorem readUnit_unitDigits : ∀ n < 32, readUnit (unitDigits n) = some (n, []) := by decide

theorem readUnit_append {n : Nat} {digits rest : List Char}
    (hread : readUnit digits = some (n, [])) : readUnit (digits ++ rest) = some (n, rest) := by
  unfold readUnit at hread
  split at hread
  · simp only [bind, Option.bind_eq_some_iff] at hread
    obtain ⟨a, ha, b, hb, c, hc, d, hd, heq⟩ := hread
    cases heq
    simp [readUnit, ha, hb, hc, hd]
  · cases hread

theorem Stroke.numbered {c : Char} (hwritten : ∀ out, writeChar out c =
      out ++ (if c.toNat < 16 then "\\u000" else "\\u00") ++ Text.hexNumber c.toNat)
    (hcontrol : c.toNat < 32) :
    Stroke c ('\\' :: 'u' :: unitDigits c.toNat) (.unit c.toNat) where
  written out := by
    rw [hwritten]
    unfold unitDigits Text.hexNumber
    split <;> simp [String.toList_append]
  nonempty := Nat.zero_lt_succ _
  read fuel seen rest := by
    simp only [List.cons_append]
    rw [readPieces, readUnit_append (readUnit_unitDigits _ hcontrol)]
  joined seen pieces := by
    -- A control character is no half of a pair, whatever comes after it.
    have hhigh : isHighSurrogate c.toNat = false := by
      simp [isHighSurrogate]; omega
    have hlow : isLowSurrogate c.toNat = false := by
      simp [isLowSurrogate]; omega
    have hchar : Char.ofNat c.toNat = c := Char.ofNat_toNat c
    cases pieces with
    | nil => simp only [joinPieces, hhigh, hlow, hchar, Bool.or_self, if_neg Bool.false_ne_true]
    | cons next pieces =>
      cases next with
      | char d => simp only [joinPieces, hhigh, hlow, hchar, Bool.or_self, if_neg Bool.false_ne_true]
      | unit m =>
        rw [joinPieces]
        simp only [hhigh, hlow, hchar, if_neg Bool.false_ne_true]

/-- Every character can be written: by one of the short escapes, by number, or as it is. -/
theorem exists_stroke (c : Char) : ∃ chunk piece, Stroke c chunk piece := by
  by_cases hshort : c ∈ ['"', '\\', '\x08', '\x0c', '\n', '\r', '\t']
  · simp only [List.mem_cons, List.not_mem_nil, or_false] at hshort
    rcases hshort with rfl | rfl | rfl | rfl | rfl | rfl | rfl
    all_goals exact ⟨_, _, .escaped (fun _ => rfl) rfl (by decide)⟩
  · simp only [List.mem_cons, List.not_mem_nil, or_false, not_or] at hshort
    obtain ⟨hquote, hslash, hbackspace, hfeed, hnewline, hreturn, htab⟩ := hshort
    have hwritten : ∀ out, writeChar out c = if c.toNat < 32 then
        out ++ (if c.toNat < 16 then "\\u000" else "\\u00") ++ Text.hexNumber c.toNat
        else out.push c := by
      intro out
      unfold writeChar
      rw [if_neg hquote, if_neg hslash, if_neg hbackspace, if_neg hfeed, if_neg hnewline,
        if_neg hreturn, if_neg htab]
    by_cases hcontrol : c.toNat < 32
    · exact ⟨_, _, .numbered (fun out => by rw [hwritten, if_pos hcontrol]) hcontrol⟩
    · exact ⟨_, _, .plain (fun out => by rw [hwritten, if_neg hcontrol]) hquote hslash
        (Nat.not_lt.1 hcontrol)⟩

/-- How the characters of a text are written one after the other, and the pieces they are read as. -/
structure Strokes (chars body : List Char) (pieces : List Piece) : Prop where
  written : ∀ out, (chars.foldl writeChar out).toList = out.toList ++ body
  length_le : chars.length ≤ body.length
  read : ∀ fuel seen rest, readPieces (fuel + chars.length) seen (body ++ '"' :: rest) =
    some (seen.reverse ++ pieces, rest)
  joined : ∀ seen, joinPieces seen pieces = some (chars.reverse ++ seen)

theorem Strokes.nil : Strokes [] [] [] where
  written out := (List.append_nil _).symm
  length_le := Nat.le_refl 0
  read fuel seen rest := by
    rw [List.append_nil]
    unfold readPieces
    rfl
  joined _ := rfl

theorem Strokes.cons {c : Char} {chars chunk body : List Char} {piece : Piece} {pieces : List Piece}
    (hfirst : Stroke c chunk piece) (hrest : Strokes chars body pieces) :
    Strokes (c :: chars) (chunk ++ body) (piece :: pieces) where
  written out := by
    rw [List.foldl_cons, hrest.written, hfirst.written, List.append_assoc]
  length_le := by
    have hnonempty := hfirst.nonempty
    have hlength := hrest.length_le
    rw [List.length_cons, List.length_append]
    omega
  read fuel seen rest := by
    rw [List.length_cons, ← Nat.add_assoc, List.append_assoc, hfirst.read, hrest.read,
      List.reverse_cons, List.append_assoc]
    rfl
  joined seen := by
    rw [hfirst.joined, hrest.joined, List.reverse_cons, List.append_assoc]
    rfl

theorem exists_strokes (chars : List Char) : ∃ body pieces, Strokes chars body pieces := by
  induction chars with
  | nil => exact ⟨_, _, .nil⟩
  | cons c chars ih =>
    obtain ⟨chunk, piece, hfirst⟩ := exists_stroke c
    obtain ⟨body, pieces, hrest⟩ := ih
    exact ⟨_, _, .cons hfirst hrest⟩

/-- What stands between the quotes of a text, and is read behind the first of them. -/
theorem exists_body (s : String) : ∃ body : List Char,
    (∀ out, (writeText out s).toList = out.toList ++ '"' :: (body ++ ['"'])) ∧
      ∀ rest, readText (body ++ '"' :: rest) = some (some s, rest) := by
  obtain ⟨body, pieces, h⟩ := exists_strokes s.toList
  refine ⟨body, ?_, ?_⟩
  · intro out
    unfold writeText
    rw [String.toList_push, String.foldl_eq_foldl_toList, h.written, String.toList_push]
    simp only [List.append_assoc, List.cons_append, List.nil_append]
  · intro rest
    obtain ⟨fuel, hfuel⟩ : ∃ fuel, (body ++ '"' :: rest).length = fuel + s.toList.length := by
      have hlength := h.length_le
      rw [List.length_append]
      exact ⟨body.length + ('"' :: rest).length - s.toList.length, by omega⟩
    unfold readText
    rw [hfuel, h.read]
    simp [h.joined]

/-! ## Values -/

/-- A value that its text holds exactly: whole numbers of 64 bits, and no half of a surrogate pair. -/
inductive Exact : Json → Prop where
  | null : Exact .null
  | bool (value : Bool) : Exact (.bool value)
  | natural {n : Nat} (h : n < UInt64.size) : Exact (ofNat n)
  | negative {n : Nat} (hpos : 0 < n) (h : n ≤ UInt64.size / 2) : Exact (.number (.negative n))
  | text (s : String) : Exact (ofString s)
  | array {items : List Json} (h : ∀ item ∈ items, Exact item) : Exact (.array items)
  | record {members : List (String × Json)} (h : ∀ member ∈ members, Exact member.2) :
      Exact (record members)

/-- A value's text, whatever it is written behind and whatever follows it. -/
structure Spells (value : Json) (text : List Char) : Prop where
  written : ∀ out, (writeTo out value).toList = out.toList ++ text
  begins : ∃ c tail, text = c :: tail ∧ c ∉ [' ', '\n', '\t', '\r', ']']
  read : ∀ fuel rest, 2 * text.length ≤ fuel → Ends rest →
    readValue fuel (text ++ rest) = some (value, rest)

theorem skipBlanks_cons {c : Char} {rest : List Char} (h : c ∉ [' ', '\n', '\t', '\r', ']']) :
    skipBlanks (c :: rest) = c :: rest := by
  simp only [List.mem_cons, List.not_mem_nil, or_false, not_or] at h
  unfold skipBlanks
  simp only [h, decide_false, Bool.or_self, Bool.false_eq_true, if_false]

theorem spells_null : Spells .null "null".toList where
  written out := String.toList_append
  begins := ⟨'n', _, rfl, by decide⟩
  read
    | fuel + 1, rest, _, _ => rfl

theorem spells_bool (value : Bool) :
    Spells (.bool value) (if value then "true" else "false").toList where
  written out := String.toList_append
  begins := by
    cases value with
    | true => exact ⟨'t', _, rfl, by decide⟩
    | false => exact ⟨'f', _, rfl, by decide⟩
  read
    | 0, rest, hfuel, _ => by cases value <;> exact absurd hfuel (by decide)
    | fuel + 1, rest, _, _ => by cases value <;> rfl

theorem digit_begins {c : Char} (h : isDigit c = true) :
    c ∉ [' ', '\n', '\t', '\r', ']'] ∧ c ∉ ['"', '[', '\x7b', '-', 'n', 't', 'f'] := by
  refine ⟨?_, ?_⟩ <;>
  · intro hmem
    simp only [List.mem_cons, List.not_mem_nil, or_false] at hmem
    rcases hmem with rfl | rfl | rfl | rfl | rfl | rfl | rfl <;> revert h <;> decide

/-- What begins with a digit is a number. -/
theorem readValue_of_digit {c : Char} (h : isDigit c = true) (fuel : Nat) (tail : List Char) :
    readValue (fuel + 1) (c :: tail) =
      (readNumeral false (c :: tail)).map fun (x, rest) => (number x.number, rest) := by
  obtain ⟨hblank, hmark⟩ := digit_begins h
  simp only [List.mem_cons, List.not_mem_nil, or_false, not_or] at hmark
  obtain ⟨hquote, hbracket, hbrace, hminus, hn, ht, hf⟩ := hmark
  unfold readValue
  rw [skipBlanks_cons hblank]
  simp only
  split
  · exact absurd (List.cons.inj ‹_›).1 hquote
  · exact absurd (List.cons.inj ‹_›).1 hbracket
  · exact absurd (List.cons.inj ‹_›).1 hbrace
  · exact absurd (List.cons.inj ‹_›).1 hminus
  · exact absurd (List.cons.inj ‹_›).1 hn
  · exact absurd (List.cons.inj ‹_›).1 ht
  · exact absurd (List.cons.inj ‹_›).1 hf
  · rfl

theorem spells_natural {n : Nat} (hn : n < UInt64.size) : Spells (ofNat n) (Nat.toDigits 10 n) := by
  obtain ⟨c, tail, hcons⟩ := List.exists_cons_of_ne_nil (Nat.toDigits_ne_nil (n := n) (b := 10))
  have hc : isDigit c = true := isDigit_toDigits n c (hcons ▸ List.mem_cons_self)
  refine ⟨?_, ⟨c, tail, hcons, (digit_begins hc).1⟩, ?_⟩
  · intro out
    show (out ++ toString n).toList = _
    rw [Nat.toString_eq_ofList_toDigits, String.toList_append, String.toList_ofList]
  · rintro (_ | fuel) rest hfuel hends
    · rw [hcons] at hfuel
      exact absurd hfuel (by simp)
    · have hread := readNumeral_toDigits (n := n) hends false
      rw [hcons, List.cons_append] at hread ⊢
      rw [readValue_of_digit hc, hread, ← hcons]
      show some (Json.number (Numeral.number _), rest) = _
      rw [number_of_natural hn]
      rfl

theorem spells_negative {n : Nat} (hpos : 0 < n) (hn : n ≤ UInt64.size / 2) :
    Spells (.number (.negative n)) ('-' :: Nat.toDigits 10 n) where
  written out := by
    show (out ++ ("-" ++ toString n)).toList = _
    rw [Nat.toString_eq_ofList_toDigits, String.toList_append, String.toList_append]
    exact congrArg (fun digits => out.toList ++ '-' :: digits) String.toList_ofList
  begins := ⟨'-', _, rfl, by decide⟩
  read
    | fuel + 1, rest, _, hends => by
      show (readNumeral true (Nat.toDigits 10 n ++ rest)).map _ = _
      rw [readNumeral_toDigits hends]
      show some (Json.number (Numeral.number _), rest) = _
      rw [number_of_negative hpos hn]

theorem exists_spells_text (s : String) : ∃ text, Spells (ofString s) text := by
  obtain ⟨body, hwritten, hread⟩ := exists_body s
  refine ⟨'"' :: (body ++ ['"']), hwritten, ⟨'"', _, rfl, by decide⟩, ?_⟩
  rintro (_ | fuel) rest hfuel -
  · exact absurd hfuel (by simp)
  · have happend : '"' :: (body ++ ['"']) ++ rest = '"' :: (body ++ '"' :: rest) := by
      simp only [List.cons_append, List.append_assoc, List.nil_append]
    rw [happend]
    show (readText (body ++ '"' :: rest)).map _ = _
    rw [hread]
    rfl

/-! ## Containers -/

/-- The texts behind the first one of a container. -/
def behind (texts : List (List Char)) : List Char := texts.flatMap (',' :: ·)

theorem behind_cons (text : List Char) (texts : List (List Char)) (rest : List Char) :
    behind (text :: texts) ++ rest = ',' :: (text ++ (behind texts ++ rest)) := by
  unfold behind
  rw [List.flatMap_cons, List.cons_append, List.cons_append, List.append_assoc]

/-- Behind an item, a comma or a bracket ends a number. -/
theorem ends_behind (texts : List (List Char)) {close : Char} (rest : List Char)
    (hclose : close = ']' ∨ close = '\x7d') : Ends (behind texts ++ close :: rest) := by
  cases texts with
  | nil =>
    refine ends_cons ?_
    rcases hclose with rfl | rfl <;> decide
  | cons text texts =>
    rw [behind_cons]
    exact ends_cons (by decide)

theorem exists_forall₂ {α β : Type} {R : α → β → Prop} {xs : List α} (h : ∀ x ∈ xs, ∃ y, R x y) :
    ∃ ys, List.Forall₂ R xs ys := by
  induction xs with
  | nil => exact ⟨[], .nil⟩
  | cons x xs ih =>
    obtain ⟨y, hy⟩ := h x List.mem_cons_self
    obtain ⟨ys, hys⟩ := ih fun x hx => h x (List.mem_cons_of_mem _ hx)
    exact ⟨y :: ys, .cons hy hys⟩

theorem writeItems_behind {items : List Json} {texts : List (List Char)}
    (h : List.Forall₂ Spells items texts) (out : String) :
    (writeItems out false items).toList = out.toList ++ behind texts := by
  induction h generalizing out with
  | nil => exact (List.append_nil _).symm
  | @cons item text items texts hitem _ ih =>
    show (writeItems (writeTo (out.push ',') item) false items).toList = _
    have hbehind := behind_cons text texts []
    rw [List.append_nil, List.append_nil] at hbehind
    rw [ih, hitem.written, String.toList_push, hbehind]
    simp only [List.append_assoc, List.cons_append, List.nil_append]

theorem readItems_behind {items : List Json} {texts : List (List Char)}
    (h : List.Forall₂ Spells items texts) {item : Json} {text : List Char} (hitem : Spells item text)
    {fuel : Nat} (hfuel : 2 * (text ++ behind texts).length ≤ fuel) (seen : List Json)
    (rest : List Char) :
    readItems (fuel + 1) seen (text ++ (behind texts ++ ']' :: rest)) =
      some (.array (seen.reverse ++ item :: items), rest) := by
  -- The induction is on the items behind the first one. Each costs one step of fuel here, which its
  -- comma pays for.
  induction h generalizing item text fuel seen with
  | nil =>
    have hread := hitem.read fuel _ (by simpa [behind] using hfuel) (ends_behind [] rest (.inl rfl))
    unfold readItems
    rw [hread]
    show some (Json.array (item :: seen).reverse, rest) = _
    rw [List.reverse_cons]
  | @cons next nextText items texts hnext _ ih =>
    rw [List.length_append] at hfuel
    have hlength := congrArg List.length (behind_cons nextText texts [])
    rw [List.append_nil, List.append_nil, List.length_cons] at hlength
    obtain ⟨fuel, rfl⟩ := Nat.exists_eq_add_of_le' (show 1 ≤ fuel by omega)
    have hread := hitem.read (fuel + 1) _ (by omega) (ends_behind (nextText :: texts) rest (.inl rfl))
    unfold readItems
    rw [hread, behind_cons]
    show readItems (fuel + 1) (item :: seen) (nextText ++ (behind texts ++ ']' :: rest)) = _
    rw [ih hnext (by omega), List.reverse_cons, List.append_assoc]
    rfl

theorem readValue_bracket {c : Char} (h : c ∉ [' ', '\n', '\t', '\r', ']']) (fuel : Nat)
    (tail : List Char) :
    readValue (fuel + 1) ('[' :: c :: tail) = readItems fuel [] (c :: tail) := by
  have hbracket : skipBlanks ('[' :: c :: tail) = '[' :: c :: tail := rfl
  have hclose : c ≠ ']' := by
    rintro rfl
    exact h (by decide)
  unfold readValue
  rw [hbracket]
  simp only [skipBlanks_cons h]
  split
  · exact absurd (List.cons.inj ‹_›).1 hclose
  · rfl

theorem spells_array {items : List Json} (h : ∀ item ∈ items, ∃ text, Spells item text) :
    ∃ text, Spells (.array items) text := by
  obtain ⟨texts, htexts⟩ := exists_forall₂ h
  cases htexts with
  | nil =>
    refine ⟨['[', ']'], ?_, ⟨'[', _, rfl, by decide⟩, ?_⟩
    · intro out
      show ((out.push '[').push ']').toList = _
      simp only [String.toList_push, List.append_assoc, List.cons_append, List.nil_append]
    · rintro (_ | fuel) rest hfuel -
      · exact absurd hfuel (by simp)
      · rfl
  | @cons item text items texts hitem hitems =>
    refine ⟨'[' :: (text ++ (behind texts ++ [']'])), ?_, ⟨'[', _, rfl, by decide⟩, ?_⟩
    · intro out
      show ((writeItems (writeTo (out.push '[') item) false items).push ']').toList = _
      rw [String.toList_push, writeItems_behind hitems, hitem.written, String.toList_push]
      simp only [List.append_assoc, List.cons_append, List.nil_append]
    · intro fuel rest hfuel _
      simp only [List.length_cons, List.length_append, List.length_nil] at hfuel
      obtain ⟨fuel, rfl⟩ := Nat.exists_eq_add_of_le' (show 2 ≤ fuel by omega)
      have hlength : 2 * (text ++ behind texts).length ≤ fuel := by
        rw [List.length_append]
        omega
      have hread := readItems_behind hitems hitem hlength [] rest
      obtain ⟨c, tail, rfl, hc⟩ := hitem.begins
      simp only [List.cons_append, List.append_assoc, List.nil_append] at hread ⊢
      rw [readValue_bracket hc, hread]
      rfl

/-! ### Members -/

/-- The text of a member: its name, a colon and its value. -/
structure SpellsMember (member : String × Json) (text : List Char) : Prop where
  written : ∀ out,
    (writeTo ((writeText out member.1).push ':') member.2).toList = out.toList ++ text
  begins : ∃ tail, text = '"' :: tail
  /-- What is read of it, in front of a comma or of the end of the object. -/
  next : ∀ fuel seen rest, 2 * text.length ≤ fuel →
    readMembers (fuel + 1) seen (text ++ ',' :: rest) =
      readMembers fuel ((some member.1, member.2) :: seen) rest
  last : ∀ fuel seen rest, 2 * text.length ≤ fuel →
    readMembers (fuel + 1) seen (text ++ '\x7d' :: rest) =
      some (.object ((some member.1, member.2) :: seen).reverse, rest)

theorem spells_member (name : String) {value : Json} {text : List Char} (h : Spells value text) :
    ∃ text, SpellsMember (name, value) text := by
  obtain ⟨body, hwritten, hread⟩ := exists_body name
  have happend : ∀ rest, '"' :: (body ++ '"' :: ':' :: text) ++ rest =
      '"' :: (body ++ '"' :: ':' :: (text ++ rest)) := by
    intro rest
    simp only [List.cons_append, List.append_assoc]
  have hvalue : ∀ fuel rest, 2 * ('"' :: (body ++ '"' :: ':' :: text)).length ≤ fuel → Ends rest →
      readValue fuel (text ++ rest) = some (value, rest) := by
    intro fuel rest hfuel hends
    simp only [List.length_cons, List.length_append] at hfuel
    exact h.read fuel rest (by omega) hends
  have hquote : ∀ rest, skipBlanks ('"' :: rest) = '"' :: rest := fun _ => rfl
  have hcolon : ∀ rest, skipBlanks (':' :: rest) = ':' :: rest := fun _ => rfl
  have hcomma : ∀ rest, skipBlanks (',' :: rest) = ',' :: rest := fun _ => rfl
  have hbrace : ∀ rest, skipBlanks ('\x7d' :: rest) = '\x7d' :: rest := fun _ => rfl
  refine ⟨'"' :: (body ++ '"' :: ':' :: text), ?_, ⟨_, rfl⟩, ?_, ?_⟩
  · intro out
    rw [h.written, String.toList_push, hwritten]
    simp only [List.append_assoc, List.cons_append, List.nil_append]
  · intro fuel seen rest hfuel
    rw [happend, readMembers]
    simp only [hquote, hread, hcolon, hvalue _ _ hfuel (ends_cons (c := ',') (by decide)), hcomma]
  · intro fuel seen rest hfuel
    rw [happend, readMembers]
    simp only [hquote, hread, hcolon, hvalue _ _ hfuel (ends_cons (c := '\x7d') (by decide)), hbrace]

theorem writeMembers_behind {members : List (String × Json)} {texts : List (List Char)}
    (h : List.Forall₂ SpellsMember members texts) (out : String) :
    (writeMembers out false (members.map fun (name, value) => (some name, value))).toList =
      out.toList ++ behind texts := by
  induction h generalizing out with
  | nil => exact (List.append_nil _).symm
  | @cons member text members texts hmember _ ih =>
    have hbehind := behind_cons text texts []
    rw [List.append_nil, List.append_nil] at hbehind
    show (writeMembers (writeTo ((writeText (out.push ',') member.1).push ':') member.2) false
      (members.map _)).toList = _
    rw [ih, hmember.written, String.toList_push, hbehind]
    simp only [List.append_assoc, List.cons_append, List.nil_append]

theorem readMembers_behind {members : List (String × Json)} {texts : List (List Char)}
    (h : List.Forall₂ SpellsMember members texts) {member : String × Json} {text : List Char}
    (hmember : SpellsMember member text) {fuel : Nat}
    (hfuel : 2 * (text ++ behind texts).length ≤ fuel) (seen : List (Option String × Json))
    (rest : List Char) :
    readMembers (fuel + 1) seen (text ++ (behind texts ++ '\x7d' :: rest)) =
      some (.object (seen.reverse ++
        (member :: members).map fun (name, value) => (some name, value)), rest) := by
  induction h generalizing member text fuel seen with
  | nil =>
    show readMembers (fuel + 1) seen (text ++ '\x7d' :: rest) = _
    rw [hmember.last fuel seen rest (by simpa [behind] using hfuel), List.reverse_cons]
    rfl
  | @cons next nextText members texts hnext _ ih =>
    rw [List.length_append] at hfuel
    have hlength := congrArg List.length (behind_cons nextText texts [])
    rw [List.append_nil, List.append_nil, List.length_cons] at hlength
    obtain ⟨fuel, rfl⟩ := Nat.exists_eq_add_of_le' (show 1 ≤ fuel by omega)
    rw [behind_cons, hmember.next (fuel + 1) seen _ (by omega), ih hnext (by omega),
      List.reverse_cons, List.append_assoc]
    rfl

theorem spells_record {members : List (String × Json)}
    (h : ∀ member ∈ members, ∃ text, Spells member.2 text) : ∃ text, Spells (record members) text := by
  obtain ⟨texts, htexts⟩ := exists_forall₂ fun member hmember =>
    (h member hmember).elim fun _ hvalue => spells_member member.1 hvalue
  cases htexts with
  | nil =>
    refine ⟨['\x7b', '\x7d'], ?_, ⟨'\x7b', _, rfl, by decide⟩, ?_⟩
    · intro out
      show ((out.push '\x7b').push '\x7d').toList = _
      simp only [String.toList_push, List.append_assoc, List.cons_append, List.nil_append]
    · rintro (_ | fuel) rest hfuel -
      · exact absurd hfuel (by simp)
      · rfl
  | @cons member text members texts hmember hmembers =>
    refine ⟨'\x7b' :: (text ++ (behind texts ++ ['\x7d'])), ?_, ⟨'\x7b', _, rfl, by decide⟩, ?_⟩
    · intro out
      show ((writeMembers (writeTo ((writeText (out.push '\x7b') member.1).push ':') member.2) false
        (members.map _)).push '\x7d').toList = _
      rw [String.toList_push, writeMembers_behind hmembers, hmember.written, String.toList_push]
      simp only [List.append_assoc, List.cons_append, List.nil_append]
    · intro fuel rest hfuel _
      simp only [List.length_cons, List.length_append, List.length_nil] at hfuel
      obtain ⟨fuel, rfl⟩ := Nat.exists_eq_add_of_le' (show 2 ≤ fuel by omega)
      have hlength : 2 * (text ++ behind texts).length ≤ fuel := by
        rw [List.length_append]
        omega
      have hread := readMembers_behind hmembers hmember hlength [] rest
      obtain ⟨tail, rfl⟩ := hmember.begins
      simp only [List.cons_append, List.append_assoc, List.nil_append] at hread ⊢
      exact hread

/-- Every value with an exact text has one, built from those of its parts. -/
theorem Exact.exists_spells {value : Json} (h : Exact value) : ∃ text, Spells value text := by
  induction h with
  | null => exact ⟨_, spells_null⟩
  | bool value => exact ⟨_, spells_bool value⟩
  | natural hn => exact ⟨_, spells_natural hn⟩
  | negative hpos hn => exact ⟨_, spells_negative hpos hn⟩
  | text s => exact exists_spells_text s
  | array _ ih => exact spells_array ih
  | record _ ih => exact spells_record ih

/-- **A value is read back from its text.** -/
theorem read?_write {value : Json} (h : Exact value) : read? (write value) = some value := by
  obtain ⟨text, hspells⟩ := h.exists_spells
  have hwritten : (write value).toList = text := hspells.written ""
  have hread := hspells.read (2 * text.length + 2) [] (by omega) ends_nil
  rw [List.append_nil] at hread
  unfold read?
  rw [hwritten]
  simp only [hread]
  rfl

end MetaLedger.Json
