import MetaLedger.Address

/-!
# Stored entries

What a ledger stores: values under addresses, in the ascending order of the addresses. The order is
kept in the type, so the entries of equal contents are equal. Each operation is described by the
value found at an address afterwards (`get?_insert`, `get?_erase`).
-/

namespace MetaLedger.Ledger

/-- An address with the value stored there. -/
abbrev Entry := Address × Bytes

/-- Values under addresses, in ascending order of the addresses. -/
@[ext] structure Entries where
  toList : List Entry
  ascending : toList.Pairwise fun a b => a.1 < b.1
deriving DecidableEq

namespace Entries

/-- Nothing is stored. -/
def empty : Entries := ⟨[], .nil⟩

instance : Inhabited Entries := ⟨empty⟩

def size (e : Entries) : Nat := e.toList.length

/-- The value at an address among some entries. -/
def valueAt (address : Address) : List Entry → Option Bytes
  | [] => none
  | (other, value) :: rest => if address = other then some value else valueAt address rest

/-- The value at an address. -/
def get? (e : Entries) (address : Address) : Option Bytes := valueAt address e.toList

/-- The addresses in ascending order. -/
def addresses (e : Entries) : List Address := e.toList.map (·.1)

/-- Puts an entry in its place. -/
def insertInto (address : Address) (value : Bytes) : List Entry → List Entry
  | [] => [(address, value)]
  | head :: rest =>
    if address < head.1 then (address, value) :: head :: rest
    else if address = head.1 then (address, value) :: rest
    else head :: insertInto address value rest

theorem mem_insertInto {address : Address} {value : Bytes} {entries : List Entry} {x : Entry}
    (h : x ∈ insertInto address value entries) : x = (address, value) ∨ x ∈ entries := by
  induction entries with
  | nil => simpa [insertInto] using h
  | cons head rest ih =>
    simp only [insertInto] at h
    split at h
    · simpa using h
    · split at h
      · rcases List.mem_cons.mp h with rfl | h
        · exact .inl rfl
        · exact .inr (List.mem_cons_of_mem _ h)
      · rcases List.mem_cons.mp h with rfl | h
        · exact .inr List.mem_cons_self
        · exact (ih h).imp id (List.mem_cons_of_mem _)

theorem ascending_insertInto (address : Address) (value : Bytes) {entries : List Entry}
    (h : entries.Pairwise fun a b => a.1 < b.1) :
    (insertInto address value entries).Pairwise fun a b => a.1 < b.1 := by
  induction entries with
  | nil => simp [insertInto]
  | cons head rest ih =>
    obtain ⟨first, others⟩ := List.pairwise_cons.mp h
    simp only [insertInto]
    split
    · next below =>
      refine List.pairwise_cons.mpr ⟨fun x hx => ?_, h⟩
      rcases List.mem_cons.mp hx with rfl | hx
      · exact below
      · exact Std.lt_trans below (first x hx)
    · next notBelow =>
      split
      · next same => exact List.pairwise_cons.mpr ⟨fun x hx => same ▸ first x hx, others⟩
      · next different =>
        refine List.pairwise_cons.mpr ⟨fun x hx => ?_, ih others⟩
        rcases mem_insertInto hx with rfl | hx
        · exact Std.lt_of_le_of_ne (Std.not_lt.mp notBelow) (Ne.symm different)
        · exact first x hx

/-- Stores a value at an address, in place of the one before. -/
def insert (e : Entries) (address : Address) (value : Bytes) : Entries :=
  ⟨insertInto address value e.toList, ascending_insertInto address value e.ascending⟩

/-- Removes what is stored at an address. -/
def erase (e : Entries) (address : Address) : Entries :=
  ⟨e.toList.filter (·.1 != address), e.ascending.filter _⟩

/-- The first `count` addresses that begin with `start`, in ascending order, after `after`. The scan
sets out at `start` itself, or behind `after` where that comes no earlier, and ends at the first
address that does not begin with `start`. -/
def page (e : Entries) (start : Address) (count : Nat) (after : Option Address) : List Address :=
  let beyond (address : Address) : Bool :=
    match after with
    | some last => if start ≤ last then last < address else start ≤ address
    | none => start ≤ address
  ((e.addresses.filter beyond).takeWhile fun address => start.isPrefixOf address).take count

theorem valueAt_insertInto (address other : Address) (value : Bytes) (entries : List Entry) :
    valueAt other (insertInto address value entries) =
      if other = address then some value else valueAt other entries := by
  induction entries with
  | nil => rfl
  | cons head rest ih =>
    obtain ⟨a, v⟩ := head
    simp only [insertInto]
    split
    · rfl
    · split
      · next same => subst same; by_cases h : other = address <;> simp [valueAt, h]
      · next different =>
        by_cases h : other = a
        · subst h; simp [valueAt, Ne.symm different]
        · simp [valueAt, h, ih]

theorem valueAt_filter (address other : Address) (entries : List Entry) :
    valueAt other (entries.filter (·.1 != address)) =
      if other = address then none else valueAt other entries := by
  induction entries with
  | nil => simp [valueAt]
  | cons head rest ih =>
    obtain ⟨a, v⟩ := head
    by_cases h : a = address
    · subst h; by_cases ho : other = a <;> simp_all [valueAt]
    · by_cases ho : other = a
      · subst ho; simp [valueAt, h]
      · simp [h, valueAt, ho, ih]

theorem get?_insert (e : Entries) (address other : Address) (value : Bytes) :
    (e.insert address value).get? other = if other = address then some value else e.get? other :=
  valueAt_insertInto address other value e.toList

theorem get?_erase (e : Entries) (address other : Address) :
    (e.erase address).get? other = if other = address then none else e.get? other :=
  valueAt_filter address other e.toList

end Entries

end MetaLedger.Ledger
