import MetaLedger.Proofs.Ledger.Entries

/-!
# Pages of addresses

In lexicographic order the addresses that begin with a given one stand side by side
(`prefix_of_between`), so a scan that sets out among them and ends at the first other one passes over
all of them. So a page is a piece of the ascending list of those (`page_eq`), and the page after the
last address of the pages before is the next piece (`page_getLast?`).
-/

namespace MetaLedger.Ledger

/-- What stands between an address and one that begins with it begins with it, too. -/
theorem prefix_of_between {start a b : Address} (hlow : start ≤ a) (hhigh : a < b)
    (h : start <+: b) : start <+: a := by
  induction start generalizing a b with
  | nil => exact List.nil_prefix
  | cons p start ih =>
    obtain ⟨rest, rfl⟩ := h
    cases a with
    | nil => exact absurd (List.nil_lt_cons p start) hlow
    | cons x a =>
      rw [List.cons_append, List.cons_lt_cons_iff] at hhigh
      rw [List.cons_le_cons_iff] at hlow
      rcases hhigh with hlt | ⟨rfl, hlt⟩
      · rcases hlow with hlt' | ⟨rfl, -⟩
        · exact absurd (Std.lt_trans hlt hlt') Std.lt_irrefl
        · exact absurd hlt Std.lt_irrefl
      · rcases hlow with hlt' | ⟨-, hle⟩
        · exact absurd hlt' Std.lt_irrefl
        · exact List.cons_prefix_cons.2 ⟨rfl, ih hle hlt (List.prefix_append _ _)⟩

namespace Entries

/-- The addresses that begin with a given one, in ascending order. -/
def under (e : Entries) (start : Address) : List Address :=
  e.addresses.filter fun address => start.isPrefixOf address

theorem under_pairwise (e : Entries) (start : Address) : (e.under start).Pairwise (· < ·) :=
  e.addresses_pairwise.filter _

theorem mem_under_iff {e : Entries} {start address : Address} :
    address ∈ e.under start ↔ (∃ value, e.get? address = some value) ∧ start <+: address := by
  unfold under
  rw [List.mem_filter, mem_addresses_iff, List.isPrefixOf_iff_prefix]

theorem length_under_le (e : Entries) (start : Address) : (e.under start).length ≤ e.size := by
  unfold under size
  have hlength : e.addresses.length = e.toList.length := List.length_map _
  exact hlength ▸ List.length_filter_le _ _

/-- A scan that sets out at `start` or later ends where the addresses that begin with it end. -/
theorem takeWhile_filter {start : Address} {beyond : Address → Bool}
    (hbeyond : ∀ a, beyond a = true → start ≤ a) {addresses : List Address}
    (ascending : addresses.Pairwise (· < ·)) :
    ((addresses.filter beyond).takeWhile fun a => start.isPrefixOf a) =
      (addresses.filter fun a => start.isPrefixOf a).filter beyond := by
  induction addresses with
  | nil => rfl
  | cons a rest ih =>
    obtain ⟨hfirst, hrest⟩ := List.pairwise_cons.1 ascending
    have hnext := ih hrest
    by_cases hb : beyond a = true
    · by_cases hp : start.isPrefixOf a = true
      · rw [List.filter_cons_of_pos hb, List.takeWhile_cons_of_pos hp, hnext,
          List.filter_cons_of_pos hp, List.filter_cons_of_pos hb]
      · -- Those after it do not begin with `start` either.
        have hnone : (rest.filter fun a => start.isPrefixOf a) = [] := by
          refine List.filter_eq_nil_iff.2 fun b hmem hprefix => hp ?_
          rw [List.isPrefixOf_iff_prefix] at hprefix ⊢
          exact prefix_of_between (hbeyond a hb) (hfirst b hmem) hprefix
        rw [List.filter_cons_of_pos hb, List.takeWhile_cons_of_neg hp, List.filter_cons_of_neg hp,
          hnone]
        rfl
    · by_cases hp : start.isPrefixOf a = true
      · rw [List.filter_cons_of_neg hb, hnext, List.filter_cons_of_pos hp,
          List.filter_cons_of_neg hb]
      · rw [List.filter_cons_of_neg hb, hnext, List.filter_cons_of_neg hp]

theorem filter_after {before rest : List Address} {last : Address}
    (ascending : (before ++ [last] ++ rest).Pairwise (· < ·)) :
    (before ++ [last] ++ rest).filter (fun a => last < a) = rest := by
  obtain ⟨hparts, -, hcross⟩ := List.pairwise_append.1 ascending
  have hbefore : ∀ a ∈ before ++ [last], ¬last < a := by
    intro a ha hlt
    rcases List.mem_append.1 ha with ha | ha
    · have hle := (List.pairwise_append.1 hparts).2.2 a ha last (List.mem_singleton.2 rfl)
      exact Std.lt_irrefl (Std.lt_trans hlt hle)
    · rw [List.mem_singleton.1 ha] at hlt
      exact Std.lt_irrefl hlt
  have hfirst : (before ++ [last]).filter (fun a => last < a) = [] := by
    refine List.filter_eq_nil_iff.2 fun a ha hlt => hbefore a ha (of_decide_eq_true hlt)
  have hsecond : rest.filter (fun a => last < a) = rest := by
    refine List.filter_eq_self.2 fun a ha => decide_eq_true ?_
    exact hcross last (List.mem_append_right _ (List.mem_singleton.2 rfl)) a ha
  rw [List.filter_append, hfirst, hsecond, List.nil_append]

/-- The address comes after the one that a page is to come after, if there is one. -/
def isAfter (after : Option Address) (address : Address) : Bool :=
  match after with
  | some last => last < address
  | none => true

/-- **A page is a piece.** It is the first part of those that begin with `start` and come after
`after`, wherever that one stands. -/
theorem page_eq (e : Entries) (start : Address) (count : Nat) (after : Option Address) :
    e.page start count after = ((e.under start).filter (isAfter after)).take count := by
  have hlow : ∀ a ∈ e.under start, start ≤ a := fun a ha => (mem_under_iff.1 ha).2.le
  have hfrom : ((e.addresses.filter fun a => start ≤ a).takeWhile fun a => start.isPrefixOf a) =
      (e.under start).filter fun a => start ≤ a :=
    takeWhile_filter (fun _ => of_decide_eq_true) e.addresses_pairwise
  have hall : (e.under start).filter (fun a => start ≤ a) = e.under start :=
    List.filter_eq_self.2 fun a ha => decide_eq_true (hlow a ha)
  cases after with
  | none =>
    have hafter : (e.under start).filter (isAfter none) = e.under start :=
      List.filter_eq_self.2 fun _ _ => rfl
    unfold page
    simp only
    rw [hfrom, hall, hafter]
  | some last =>
    by_cases hlast : start ≤ last
    · have hscan : ((e.addresses.filter fun a => last < a).takeWhile fun a => start.isPrefixOf a) =
          (e.under start).filter fun a => last < a :=
        takeWhile_filter (fun a ha => Std.le_trans hlast (Std.le_of_lt (of_decide_eq_true ha)))
          e.addresses_pairwise
      unfold page
      simp only [hlast, if_true]
      rw [hscan]
      rfl
    · -- All that begin with `start` come after an address before it.
      have hafter : (e.under start).filter (isAfter (some last)) = e.under start := by
        refine List.filter_eq_self.2 fun a ha => decide_eq_true ?_
        exact Std.lt_of_lt_of_le (Std.not_le.1 hlast) (hlow a ha)
      unfold page
      simp only [hlast, if_false]
      rw [hfrom, hall, hafter]

/-- The page after the addresses that have been seen is the first part of those that have not. -/
theorem page_getLast? {e : Entries} {start : Address} {seen rest : List Address} (count : Nat)
    (h : e.under start = seen ++ rest) : e.page start count seen.getLast? = rest.take count := by
  have ascending := e.under_pairwise start
  rw [page_eq, h]
  rw [h] at ascending
  rcases List.eq_nil_or_concat seen with rfl | ⟨before, last, rfl⟩
  · exact congrArg (List.take count) (List.filter_eq_self.2 fun _ _ => rfl)
  · rw [List.concat_eq_append] at ascending ⊢
    rw [List.getLast?_append, List.getLast?_singleton, Option.some_or]
    exact congrArg (List.take count) (filter_after ascending)

end Entries

end MetaLedger.Ledger
