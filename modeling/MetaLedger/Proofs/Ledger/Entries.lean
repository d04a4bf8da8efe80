import MetaLedger.Ledger.Entries

/-!
# Entries are what is found in them

Because entries stand in the order of their addresses, two of them in which the same value is found
at every address are equal (`ext_get?`). Equations between updates are proved through it: updates of
different addresses commute, and an update replaces the one before it at the same address.
-/

namespace MetaLedger.Ledger.Entries

theorem valueAt_eq_none {address : Address} {entries : List Entry}
    (h : ∀ x ∈ entries, address < x.1) : valueAt address entries = none := by
  induction entries with
  | nil => rfl
  | cons head rest ih =>
    have hne : address ≠ head.1 := fun heq => Std.lt_irrefl (heq ▸ h head List.mem_cons_self)
    simp only [valueAt, hne, if_false]
    exact ih fun x hx => h x (List.mem_cons_of_mem _ hx)

theorem mem_of_valueAt {address : Address} {value : Bytes} {entries : List Entry}
    (h : valueAt address entries = some value) : (address, value) ∈ entries := by
  induction entries with
  | nil => cases h
  | cons head rest ih =>
    obtain ⟨a, v⟩ := head
    simp only [valueAt] at h
    split at h
    · next same =>
      cases h
      exact same ▸ List.mem_cons_self
    · exact List.mem_cons_of_mem _ (ih h)

/-- In ascending order, each entry is the one that is found at its address. -/
theorem valueAt_of_mem {address : Address} {value : Bytes} {entries : List Entry}
    (ascending : entries.Pairwise fun a b => a.1 < b.1) (h : (address, value) ∈ entries) :
    valueAt address entries = some value := by
  induction entries with
  | nil => cases h
  | cons head rest ih =>
    obtain ⟨first, others⟩ := List.pairwise_cons.1 ascending
    rcases List.mem_cons.1 h with rfl | h
    · simp only [valueAt, if_true]
    · have hne : address ≠ head.1 := fun heq => Std.lt_irrefl (heq ▸ first _ h)
      simp only [valueAt, hne, if_false]
      exact ih others h

/-- Ascending entries are determined by what is found in them. -/
theorem eq_of_valueAt_eq {left right : List Entry}
    (hleft : left.Pairwise fun a b => a.1 < b.1) (hright : right.Pairwise fun a b => a.1 < b.1)
    (h : ∀ address, valueAt address left = valueAt address right) : left = right := by
  induction left generalizing right with
  | nil =>
    cases right with
    | nil => rfl
    | cons head rest =>
      have := h head.1
      simp only [valueAt, if_true] at this
      cases this
  | cons x xs ih =>
    cases right with
    | nil =>
      have := h x.1
      simp only [valueAt, if_true] at this
      cases this
    | cons y ys =>
      obtain ⟨hx, hxs⟩ := List.pairwise_cons.1 hleft
      obtain ⟨hy, hys⟩ := List.pairwise_cons.1 hright
      have hmem : x ∈ y :: ys := by
        refine mem_of_valueAt (h x.1 ▸ ?_)
        simp only [valueAt, if_true]
      have hmem' : y ∈ x :: xs := by
        refine mem_of_valueAt ((h y.1).symm ▸ ?_)
        simp only [valueAt, if_true]
      have hhead : x = y := by
        rcases List.mem_cons.1 hmem with hxy | hxy
        · exact hxy
        · rcases List.mem_cons.1 hmem' with hyx | hyx
          · exact hyx.symm
          · exact absurd (Std.lt_trans (hx y hyx) (hy x hxy)) Std.lt_irrefl
      subst hhead
      refine congrArg _ (ih hxs hys fun address => ?_)
      by_cases same : address = x.1
      · rw [same, valueAt_eq_none hx, valueAt_eq_none hy]
      · have := h address
        simpa only [valueAt, same, if_false] using this

theorem ext_get? {e f : Entries} (h : ∀ address, e.get? address = f.get? address) : e = f :=
  Entries.ext (eq_of_valueAt_eq e.ascending f.ascending h)

theorem get?_eq_some_iff {e : Entries} {address : Address} {value : Bytes} :
    e.get? address = some value ↔ (address, value) ∈ e.toList :=
  ⟨mem_of_valueAt, valueAt_of_mem e.ascending⟩

theorem mem_addresses_iff {e : Entries} {address : Address} :
    address ∈ e.addresses ↔ ∃ value, e.get? address = some value := by
  unfold addresses
  constructor
  · intro h
    obtain ⟨⟨a, value⟩, hmem, rfl⟩ := List.mem_map.1 h
    exact ⟨value, get?_eq_some_iff.2 hmem⟩
  · rintro ⟨value, h⟩
    exact List.mem_map.2 ⟨_, get?_eq_some_iff.1 h, rfl⟩

theorem addresses_pairwise (e : Entries) : e.addresses.Pairwise (· < ·) :=
  List.pairwise_map.2 e.ascending

@[simp] theorem get?_insert_self (e : Entries) (address : Address) (value : Bytes) :
    (e.insert address value).get? address = some value := by
  rw [get?_insert, if_pos rfl]

theorem get?_insert_of_ne {e : Entries} {address other : Address} {value : Bytes}
    (h : other ≠ address) : (e.insert address value).get? other = e.get? other := by
  rw [get?_insert, if_neg h]

theorem get?_erase_of_ne {e : Entries} {address other : Address} (h : other ≠ address) :
    (e.erase address).get? other = e.get? other := by
  rw [get?_erase, if_neg h]

/-! ## Updates -/

theorem insert_insert (e : Entries) (address : Address) (first second : Bytes) :
    (e.insert address first).insert address second = e.insert address second := by
  refine ext_get? fun other => ?_
  simp only [get?_insert]
  split <;> rfl

theorem insert_comm (e : Entries) {a b : Address} (h : a ≠ b) (v w : Bytes) :
    (e.insert a v).insert b w = (e.insert b w).insert a v := by
  refine ext_get? fun other => ?_
  simp only [get?_insert]
  by_cases ha : other = a
  · have hb : other ≠ b := ha ▸ h
    simp only [ha, h, if_true, if_false]
  · simp only [ha, if_false]

theorem erase_insert_comm (e : Entries) {a b : Address} (h : a ≠ b) (v : Bytes) :
    (e.insert a v).erase b = (e.erase b).insert a v := by
  refine ext_get? fun other => ?_
  simp only [get?_insert, get?_erase]
  by_cases ha : other = a
  · simp only [ha, h, if_true, if_false]
  · simp only [ha, if_false]

end MetaLedger.Ledger.Entries
