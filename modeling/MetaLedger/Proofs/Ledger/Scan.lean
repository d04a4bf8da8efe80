import Mathlib.Data.List.Nodup
import MetaLedger.Proofs.Ledger.Page
import MetaLedger.Proofs.Ledger.PastBlocks

/-!
# What a page of keys is

A page is cut off the front of one list, which depends on the block, the prefix and the cursor, but not
on how many keys are asked for (`Listed`). What belongs to it is said by reading: the addresses where a
value is read at the block, that begin with the prefix and come after the cursor. The cursor is compared
and nothing else, so it need not be an address where something is stored. Pages are such pieces at every
block whose entries a ledger keeps, in whatever state (`run_keys`).
-/

namespace MetaLedger.Ledger

open Annals (Recorded)

/-! ## Ascending addresses -/

/-- Ascending addresses are determined by which they are. -/
theorem eq_of_ascending {left right : List Address} (hleft : left.Pairwise (· < ·))
    (hright : right.Pairwise (· < ·)) (h : ∀ address, address ∈ left ↔ address ∈ right) :
    left = right := by
  have hnodup : ∀ addresses : List Address, addresses.Pairwise (· < ·) → addresses.Nodup := by
    intro addresses hascending
    apply hascending.imp
    rintro a _ hlt rfl
    exact Std.lt_irrefl hlt
  have hperm : left.Perm right :=
    (List.perm_ext_iff_of_nodup (hnodup left hleft) (hnodup right hright)).2 h
  apply hperm.eq_of_pairwise _ hleft hright
  intro a b _ _ hab hba
  exact absurd (Std.lt_trans hab hba) Std.lt_irrefl

theorem isAfter_iff {after : Option Address} {address : Address} :
    Entries.isAfter after address = true ↔ ∀ last, after = some last → last < address := by
  cases after with
  | none => simp [Entries.isAfter]
  | some last => simp [Entries.isAfter]

/-! ## At a block -/

/-- The addresses, in ascending order, where a value is read at a block, that begin with `start` and
come after `after`. -/
structure Listed (s : State) (block : Option BlockHash) (start : Address) (after : Option Address)
    (addresses : List Address) : Prop where
  ascending : addresses.Pairwise (· < ·)
  mem_iff : ∀ address, address ∈ addresses ↔
    (∃ value, s.storage address block = .ok (some value)) ∧ start <+: address ∧
      ∀ last, after = some last → last < address

section AtBlock

variable {r : Rules} {s : State} {block : Option BlockHash} {start : Address} {after : Option Address}

theorem Listed.unique {left right : List Address} (hleft : Listed s block start after left)
    (hright : Listed s block start after right) : left = right := by
  apply eq_of_ascending hleft.ascending hright.ascending
  intro address
  rw [hleft.mem_iff, hright.mem_iff]

variable {e : Entries} (hopen : s.closed = false) (hentries : s.entriesAt block = .ok e)

include hopen hentries

theorem storage_eq_get? (address : Address) : s.storage address block = .ok (e.get? address) := by
  unfold State.storage
  simp only [hopen, hentries, Bool.false_eq_true, if_false]

/-- What is listed at a block is what its entries have under the prefix, from the cursor on. -/
theorem listed_of_entriesAt :
    Listed s block start after ((e.under start).filter (Entries.isAfter after)) where
  ascending := (e.under_pairwise start).filter _
  mem_iff := by
    intro address
    have hread : (∃ value, s.storage address block = .ok (some value)) ↔
        ∃ value, e.get? address = some value := by
      simp only [storage_eq_get? hopen hentries, Except.ok.injEq]
    rw [List.mem_filter, Entries.mem_under_iff, isAfter_iff, hread, and_assoc]

/-- A page is the first part of what is listed. -/
theorem Listed.serve_keys {addresses : List Address} (h : Listed s block start after addresses)
    (count : UInt32) :
    s.serve r (.keys start count after block) =
      (.reply (.ok (addresses.take count.toNat)), s) := by
  have hpage : e.page start count.toNat after = addresses.take count.toNat := by
    rw [Entries.page_eq, (listed_of_entriesAt hopen hentries).unique h]
  unfold State.serve State.keys
  simp only [hopen, hentries, hpage, Bool.false_eq_true, if_false]

end AtBlock

/-! ## The blocks that are kept -/

/-- The entries of the latest blocks are there, also if two blocks have one hash. -/
theorem Annals.Recorded.entriesAt_kept {r : Rules} {h : Annals} (hrecorded : Recorded r h)
    (hhistory : 0 < r.stateHistory) {block : BlockHash}
    (hblock : block ∈ h.blocks.take r.stateHistory) :
    ∃ e, h.state.entriesAt (some block) = .ok e := by
  by_cases hhead : block = h.state.head
  · rw [hhead, Annals.entriesAt_head]
    exact ⟨h.state.best, rfl⟩
  · rw [h.blocks_take hhistory, ← hrecorded.past_map_fst] at hblock
    have hpast := (List.mem_cons.1 hblock).resolve_left hhead
    obtain ⟨kept, hkept, hsame⟩ := List.mem_map.1 hpast
    unfold State.entriesAt
    simp only [hhead, if_false]
    cases hfind : h.state.past.find? (·.1 = block) with
    | some found => exact ⟨found.2, rfl⟩
    | none =>
      have hnone := List.find?_eq_none.1 hfind kept hkept
      exact absurd (decide_eq_true hsame) hnone

/-! ## Every state -/

/-- **A page of keys is what it is said to be.** However a ledger was used: as long as it is open, at its
head and at each block that it keeps, for every prefix and every cursor, there is one ascending list of
the stored addresses that begin with the prefix and come after the cursor, and a page is its first part,
of any length that is asked for. At other blocks there are no pages, and none when the ledger is closed. -/
theorem run_keys (c : Config) (ops : List Op) :
    let r := Rules.ofConfig c
    let h := (Annals.initial r).run r ops
    let s := (State.initial r).run r ops
    let kept := h.blocks.take (max 1 c.stateHistory)
    h.state = s ∧
    (s.closed = false →
      (∀ block, (∀ b, block = some b → b ∈ kept) → ∀ start after,
        ∃ all, Listed s block start after all ∧
          (∀ other, Listed s block start after other → other = all) ∧
          ∀ count, s.serve r (.keys start count after block) =
            (.reply (.ok (all.take count.toNat)), s)) ∧
      ∀ block, block ∉ kept → ∀ start count after,
        s.serve r (.keys start count after (some block)) =
          (.reply (.error (.unknownBlock block)), s)) ∧
    (s.closed = true → ∀ block start count after,
      s.serve r (.keys start count after block) = (.reply (.error .closed), s)) := by
  intro r h s kept
  have hstate : h.state = s := Annals.run_state r (Annals.initial r) ops
  have hrecorded : Recorded r h := (Recorded.initial r).run ops
  have hhistory : 0 < r.stateHistory := Nat.le_max_left 1 c.stateHistory
  refine ⟨hstate, fun hopen => ⟨?_, ?_⟩, fun hclosed block start count after => ?_⟩
  · intro block hkept start after
    obtain ⟨e, hentries⟩ : ∃ e, s.entriesAt block = .ok e := by
      cases block with
      | none => exact ⟨s.best, rfl⟩
      | some b =>
        rw [← hstate]
        exact hrecorded.entriesAt_kept hhistory (hkept b rfl)
    have hlisted : Listed s block start after _ := listed_of_entriesAt hopen hentries
    refine ⟨_, hlisted, fun other hother => hother.unique hlisted, ?_⟩
    intro count
    exact hlisted.serve_keys hopen hentries count
  · intro block hblock start count after
    have hunknown := hrecorded.entriesAt_unknown hhistory hblock
    rw [hstate] at hunknown
    unfold State.serve State.keys
    simp only [hopen, hunknown, Bool.false_eq_true, if_false]
  · exact State.serve_of_closed hclosed nofun

open Ed25519 (neutralKey signedNeutralKey) in
/-- Two accounts are funded, one before the block that is read and one after it. -/
theorem run_keys_funded :
    let c : Config := { stateHistory := 2 }
    let ops : List Op := [.fund ⟨neutralKey⟩ 1, .block, .fund ⟨signedNeutralKey⟩ 2]
    let s := (State.initial (Rules.ofConfig c)).run (Rules.ofConfig c) ops
    s.closed = false ∧ ∀ start after, ∃ all,
      Listed s (some (Rules.ofConfig c).genesis) start after all ∧
        ∀ count, s.serve (Rules.ofConfig c)
            (.keys start count after (some (Rules.ofConfig c).genesis)) =
          (.reply (.ok (all.take count.toNat)), s) := by
  intro c ops s
  have hopen : s.closed = false := by decide +kernel
  have hkept : (Rules.ofConfig c).genesis ∈
      ((Annals.initial (Rules.ofConfig c)).run (Rules.ofConfig c) ops).blocks.take 2 := by
    decide +kernel
  refine ⟨hopen, fun start after => ?_⟩
  obtain ⟨-, hpages, -⟩ := run_keys c ops
  obtain ⟨all, hlisted, -, hserve⟩ := (hpages hopen).1 (some (Rules.ofConfig c).genesis)
    (by rintro _ ⟨⟩; exact hkept) start after
  exact ⟨all, hlisted, hserve⟩

/-- The cursor is before, at, among or behind the addresses under the prefix, or missing. -/
example :
    let e := [[0], [1], [1, 5], [1, 7], [2]].foldl (fun e address => e.insert address []) Entries.empty
    [some [0, 9], some [1], some [1, 6], some [2], none].map (e.page [1] 2) =
      [[[1], [1, 5]], [[1, 5], [1, 7]], [[1, 7]], [], [[1], [1, 5]]] := by
  decide

end MetaLedger.Ledger
