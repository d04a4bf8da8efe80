import MetaLedger.Proofs.Ledger.Page
import MetaLedger.Proofs.Store.Writing

/-!
# Listing the keys of a namespace

The addresses that begin with a namespace's are those of its keys (`Holds.exists_keys`), in the order
of the written keys. A listing that has delivered a first part of the keys asks for the page after the
last one, which is the next part, and ends with the first page that is not full (`Serves.page`). So it
needs no more pages than there are keys, and one for the end.
-/

namespace MetaLedger.Store

open Ledger (Rules Entries State)
open Workbench (Completes)

variable {c : Ledger.Config} {o : Opened} {r : Rules} {e : Entries} {s : State} {m : Contents}

theorem exists_map_eq {α β : Type} {f : α → β} {P : α → Prop} {values : List β}
    (h : ∀ y ∈ values, ∃ x, P x ∧ y = f x) : ∃ xs : List α, values = xs.map f ∧ ∀ x ∈ xs, P x := by
  induction values with
  | nil => exact ⟨[], rfl, fun _ hx => nomatch hx⟩
  | cons y values ih =>
    obtain ⟨x, hx, rfl⟩ := h y List.mem_cons_self
    obtain ⟨xs, rfl, hxs⟩ := ih fun y hy => h y (List.mem_cons_of_mem _ hy)
    refine ⟨x :: xs, rfl, ?_⟩
    intro z hz
    rcases List.mem_cons.1 hz with rfl | hz
    · exact hx
    · exact hxs z hz

/-- What follows a common beginning decides the order. -/
theorem lt_of_append_lt {a x y : Bytes} (h : a ++ x < a ++ y) : x < y := by
  by_cases hlt : x < y
  · exact hlt
  · exact absurd h (List.append_left_le hlt)

/-- The addresses that begin with a namespace's are those of its records. -/
theorem Holds.mem_under_iff (h : Holds r e m) {ns : Bytes} (hns : ns.length < UInt32.size)
    {address : Address} :
    address ∈ e.under (r.keys.namespaceAddress ns) ↔
      ∃ key, (m ns key).isSome ∧ address = r.keys.recordAddress ns key := by
  rw [Entries.mem_under_iff]
  constructor
  · rintro ⟨⟨value, hvalue⟩, hprefix⟩
    have hrecords := (StorageKeys.records_prefix_namespaceAddress ns).trans hprefix
    obtain ⟨n, key, record, hrecord, rfl⟩ := h.only hvalue hrecords
    obtain rfl := StorageKeys.eq_of_namespaceAddress_prefix hns (h.short hrecord).1 hprefix
    exact ⟨key, by rw [hrecord]; rfl, rfl⟩
  · rintro ⟨key, hsome, rfl⟩
    obtain ⟨record, hrecord⟩ := Option.isSome_iff_exists.1 hsome
    refine ⟨⟨record.encode, ?_⟩, StorageKeys.namespaceAddress_prefix_recordAddress ns key⟩
    rw [h.records hns (h.short hrecord).2.1, hrecord]
    rfl

theorem Holds.key_short (h : Holds r e m) {ns key : Bytes} (hsome : (m ns key).isSome) :
    key.length < UInt32.size := by
  obtain ⟨record, hrecord⟩ := Option.isSome_iff_exists.1 hsome
  exact (h.short hrecord).2.1

/-- The keys of a namespace, in the order of their addresses. -/
theorem Holds.exists_keys (h : Holds r e m) {ns : Bytes} (hns : ns.length < UInt32.size) :
    ∃ ks : List Bytes, e.under (r.keys.namespaceAddress ns) = ks.map (r.keys.recordAddress ns) ∧
      (∀ key, key ∈ ks ↔ (m ns key).isSome) ∧
      ks.Pairwise fun k l => Scale.encodeBytes k < Scale.encodeBytes l := by
  obtain ⟨ks, hks, hsome⟩ := exists_map_eq fun address hmem => (h.mem_under_iff hns).1 hmem
  refine ⟨ks, hks, fun key => ⟨hsome key, ?_⟩, ?_⟩
  · intro hkey
    have hmem := (h.mem_under_iff hns).2 ⟨key, hkey, rfl⟩
    rw [hks] at hmem
    obtain ⟨k, hk, heq⟩ := List.mem_map.1 hmem
    have hshort := h.key_short (hsome k hk)
    rwa [← (StorageKeys.recordAddress_inj hns hns hshort (h.key_short hkey) heq).2]
  · have hascending := e.under_pairwise (r.keys.namespaceAddress ns)
    rw [hks, List.pairwise_map] at hascending
    exact hascending.imp lt_of_append_lt

/-! ## Pages of keys -/

theorem getLast?_map_append {α β : Type} (f : α → β) (front : List α) {back : List α}
    (h : 0 < back.length) : ((front ++ back).map f).getLast? = (back.map f).getLast? := by
  have hsome : back.map f ≠ [] := by
    intro hnil
    rw [List.map_eq_nil_iff.1 hnil] at h
    exact Nat.lt_irrefl _ h
  rw [List.map_append, List.getLast?_append, List.getLast?_eq_some_getLast hsome, Option.some_or]

section Resume

variable {keys : StorageKeys} {ns : Bytes} {ks : List Bytes}
  (hshort : ∀ key ∈ ks, key.length < UInt32.size)

include hshort

theorem keysOfPage_map :
    keysOfPage (keys.namespaceAddress ns) (ks.map (keys.recordAddress ns)) = (ks, none) := by
  induction ks with
  | nil => rfl
  | cons key ks ih =>
    have hkey := hshort key List.mem_cons_self
    have hrest := ih fun k hk => hshort k (List.mem_cons_of_mem _ hk)
    simp only [List.map_cons, keysOfPage, StorageKeys.recoverKey_recordAddress hkey, hrest]

/-- After a page a listing ends, or it goes on after the last key of the page. -/
theorem resume_page (after : Option Address) (delivered : List Bytes) :
    (Task.page o (keys.namespaceAddress ns) after delivered).resume
        (.ok (ks.map (keys.recordAddress ns))) =
      if ks.length < o.config.pageSize.toNat then .ended (delivered ++ ks) (.ok .done)
      else .running (.page o (keys.namespaceAddress ns) (ks.map (keys.recordAddress ns)).getLast?
        (delivered ++ ks)) := by
  simp only [Task.resume, keysOfPage_map hshort, List.length_map]

end Resume

theorem serve_keys (hopen : s.closed = false) (start : Address) (count : UInt32)
    (after : Option Address) :
    s.serve r (.keys start count after none) =
      (.reply (.ok (s.best.page start count.toNat after)), s) := by
  unfold State.serve State.keys
  rw [hopen]
  rfl

/-- From any point of a listing on, the keys that are left are delivered. -/
theorem Serves.page (h : Serves r s m) (hsize : o.config.pageSize ≠ 0) {ns : Bytes}
    {seen rest : List Bytes}
    (hunder : s.best.under (r.keys.namespaceAddress ns) =
      (seen ++ rest).map (r.keys.recordAddress ns))
    (hshort : ∀ key ∈ seen ++ rest, key.length < UInt32.size) :
    ∃ moves, moves ≤ rest.length + 1 ∧
      Completes r s (.running (.page o (r.keys.namespaceAddress ns)
        (seen.map (r.keys.recordAddress ns)).getLast? seen)) moves s (seen ++ rest) (.ok .done) := by
  have hcount : 0 < o.config.pageSize.toNat := by
    refine Nat.pos_of_ne_zero fun hzero => hsize ?_
    exact UInt32.toNat_inj.1 hzero
  -- The induction is on the number of keys that are left.
  induction hn : rest.length using Nat.strongRecOn generalizing seen rest with
  | ind n ih =>
    have hparts := hunder
    rw [List.map_append] at hparts
    have hpage := Entries.page_getLast? o.config.pageSize.toNat hparts
    rw [← List.map_take] at hpage
    have hserve := serve_keys (r := r) h.quiet.isOpen (r.keys.namespaceAddress ns) o.config.pageSize
      (seen.map (r.keys.recordAddress ns)).getLast?
    rw [hpage] at hserve
    have htake : ∀ key ∈ rest.take o.config.pageSize.toNat, key.length < UInt32.size := by
      intro key hkey
      exact hshort key (List.mem_append_right _ (List.mem_of_mem_take hkey))
    have hresume : (Task.page o (r.keys.namespaceAddress ns)
        (seen.map (r.keys.recordAddress ns)).getLast? seen).resume
        (.ok ((rest.take o.config.pageSize.toNat).map (r.keys.recordAddress ns))) = _ :=
      resume_page htake _ seen
    by_cases hlast : rest.length < o.config.pageSize.toNat
    · have hall : rest.take o.config.pageSize.toNat = rest := List.take_of_length_le (by omega)
      rw [hall, if_pos hlast] at hresume
      rw [hall] at hserve
      refine ⟨1, by omega, .reply hserve ?_⟩
      rw [hresume]
      exact .ended
    · have hfull : (rest.take o.config.pageSize.toNat).length = o.config.pageSize.toNat :=
        List.length_take_of_le (Nat.not_lt.1 hlast)
      have hsplit : seen ++ rest.take o.config.pageSize.toNat ++
          rest.drop o.config.pageSize.toNat = seen ++ rest := by
        rw [List.append_assoc, List.take_append_drop]
      have hlength : (rest.drop o.config.pageSize.toNat).length < n := by
        rw [List.length_drop]
        omega
      rw [← hsplit] at hunder hshort ⊢
      obtain ⟨moves, hmoves, hrest⟩ := ih _ hlength hunder hshort rfl
      refine ⟨moves + 1, by omega, .reply hserve ?_⟩
      rw [hresume, if_neg (by omega), ← getLast?_map_append _ seen (by omega)]
      exact hrest

/-- **A listing runs through**, in no more moves than there are entries and one, and delivers the keys
of the namespace. -/
theorem Serves.list (h : Serves r s m) (hsize : o.config.pageSize ≠ 0) {ns : Bytes}
    (hns : ns.length < UInt32.size) :
    ∃ moves keys, moves ≤ s.best.size + 1 ∧
      Completes r s (.running (.page o (r.keys.namespaceAddress ns) none [])) moves s keys
        (.ok .done) ∧
      (∀ key, key ∈ keys ↔ (m ns key).isSome) ∧
      keys.Pairwise fun k l => Scale.encodeBytes k < Scale.encodeBytes l := by
  obtain ⟨keys, hunder, hmem, hordered⟩ := h.holds.exists_keys hns
  have hshort : ∀ key ∈ [] ++ keys, key.length < UInt32.size := by
    intro key hkey
    exact h.holds.key_short ((hmem key).1 hkey)
  obtain ⟨moves, hmoves, hcompletes⟩ :=
    h.page hsize (show s.best.under _ = ([] ++ keys).map _ from hunder) hshort
  have hcount : keys.length ≤ s.best.size := by
    have hlength := s.best.length_under_le (r.keys.namespaceAddress ns)
    rwa [hunder, List.length_map] at hlength
  exact ⟨moves, keys, by omega, hcompletes, hmem, hordered⟩

end MetaLedger.Store
