import Mathlib.Data.List.Nodup
import MetaLedger.Proofs.Store.Connection
import MetaLedger.Proofs.Store.Enumeration

/-!
# How many pages a listing takes

At a ledger that stays as it is, a listing goes through the addresses of its namespace from full page to
full page (`Scans`), whatever stands at them. All addresses of a full page give keys, so the keys of the
namespace bound the number of full pages, and one more page ends the listing (`Scans.endsWithin`). This
needs pages of at least one key. A connection sees to that (`pageSize_ne_zero_of_connects`), but a store
over a session that is there already may have been given the page size zero: every page it is sent is
full then, and it asks for the first one for ever (`Endless.through`).
-/

namespace MetaLedger.Store

open Ledger (Rules Entries State)
open Connecting (Connects)

variable {r : Rules} {e : Entries} {s : State} {o : Opened} {ns : Bytes} {n : Nat}

/-- Something is stored where `keys` file the key of a namespace. -/
def StoredUnder (keys : StorageKeys) (e : Entries) (ns key : Bytes) : Prop :=
  ∃ address value, keys.deriveAddress ns key = .ok address ∧ e.get? address = some value

/-- With a ledger that stays as it is, an operation ends after `limit` replies at the latest. -/
def EndsWithin (r : Rules) (s : State) (limit : Nat) (p : Progress) : Prop :=
  ∃ n ≤ limit, ∃ delivered result, p.through r (List.replicate n s) = .ended delivered result

/-! ## The keys under an address -/

/-- The keys that the addresses under a given one give, as far as they give any. -/
def keysUnder (e : Entries) (start : Address) : List Bytes :=
  (e.under start).filterMap fun address => (StorageKeys.recoverKey start address).toOption

theorem toOption_recoverKey_eq_some_iff {start address : Address} {key : Bytes} :
    (StorageKeys.recoverKey start address).toOption = some key ↔
      key.length < UInt32.size ∧ address = start ++ Scale.encodeBytes key := by
  rw [← Digests.recoverKey_eq_ok_iff]
  cases StorageKeys.recoverKey start address with
  | error failure => exact iff_of_false nofun nofun
  | ok found => exact ⟨fun h => congrArg Except.ok (Option.some.inj h), fun h => by cases h; rfl⟩

theorem keysUnder_nodup (e : Entries) (start : Address) : (keysUnder e start).Nodup := by
  have hdistinct : (e.under start).Nodup := (e.under_pairwise start).imp Std.ne_of_lt
  refine hdistinct.filterMap fun a b key ha hb => ?_
  rw [(toOption_recoverKey_eq_some_iff.1 ha).2, (toOption_recoverKey_eq_some_iff.1 hb).2]

theorem mem_keysUnder_iff {keys : StorageKeys} (hns : ns.length < UInt32.size) {key : Bytes} :
    key ∈ keysUnder e (keys.namespaceAddress ns) ↔ StoredUnder keys e ns key := by
  have haddress : keys.recordAddress ns key =
      keys.namespaceAddress ns ++ Scale.encodeBytes key := rfl
  unfold keysUnder
  rw [List.mem_filterMap]
  constructor
  · rintro ⟨address, hmem, hkey⟩
    obtain ⟨hshort, rfl⟩ := toOption_recoverKey_eq_some_iff.1 hkey
    obtain ⟨⟨value, hvalue⟩, -⟩ := Entries.mem_under_iff.1 hmem
    exact ⟨_, value, StorageKeys.deriveAddress_eq_ok_iff.2 ⟨hns, hshort, haddress.symm⟩, hvalue⟩
  · rintro ⟨address, value, hderived, hvalue⟩
    obtain ⟨-, hshort, rfl⟩ := StorageKeys.deriveAddress_eq_ok_iff.1 hderived
    refine ⟨_, Entries.mem_under_iff.2 ⟨⟨value, hvalue⟩, ?_⟩,
      toOption_recoverKey_eq_some_iff.2 ⟨hshort, haddress⟩⟩
    exact StorageKeys.namespaceAddress_prefix_recordAddress ns key

/-- All addresses of a page give the keys that it delivers, unless it ends the listing. -/
theorem map_recoverKey_of_keysOfPage {start : Address} {page : List Address} {ks : List Bytes}
    (h : keysOfPage start page = (ks, none)) :
    page.map (StorageKeys.recoverKey start) = ks.map .ok := by
  induction page generalizing ks with
  | nil =>
    cases h
    rfl
  | cons address page ih =>
    unfold keysOfPage at h
    cases hfirst : StorageKeys.recoverKey start address with
    | error failure =>
      simp only [hfirst] at h
      cases h
    | ok key =>
      rcases hrest : keysOfPage start page with ⟨rest, stop⟩
      simp only [hfirst, hrest] at h
      cases h
      rw [List.map_cons, List.map_cons, hfirst, ih hrest]

/-! ## From page to page -/

/-- A closed ledger ends a listing where it stands. -/
theorem answered_of_closed (hclosed : s.closed = true) (start : Address) (after : Option Address)
    (delivered : List Bytes) :
    (Progress.running (.page o start after delivered)).answered r s =
      .ended delivered (failAt .listKeys .scanKeys (.chainQuery .closed)) := by
  have hserve : s.serve r (.keys start o.config.pageSize after none) = _ :=
    State.serve_of_closed hclosed nofun
  rw [Progress.answered_of_reply hserve]
  rfl

/-- The first page of no keys is full, and there is nothing in it to go on behind. -/
theorem answered_of_noKeys (hopen : s.closed = false) (hsize : o.config.pageSize = 0)
    (start : Address) :
    (Progress.running (.page o start none [])).answered r s = .running (.page o start none []) := by
  have hserve := serve_keys (r := r) hopen start o.config.pageSize none
  have hnone : s.best.page start o.config.pageSize.toNat none = [] := by
    have hfirst : s.best.under start = [] ++ s.best.under start := rfl
    rw [hsize]
    exact Entries.page_getLast? 0 hfirst
  rw [hnone] at hserve
  rw [Progress.answered_of_reply hserve]
  simp only [Task.resume, keysOfPage, hsize]
  rfl

/-- The last of a full page is the last of all so far; a page of none is full only after pages of
none. -/
theorem getLast?_of_full {seen page : List Address} {size : Nat} (hfull : seen.length = n * size)
    (hcount : page.length = size) : page.getLast? = (seen ++ page).getLast? := by
  rcases List.eq_nil_or_concat page with rfl | ⟨front, last, rfl⟩
  · have hnone : seen.length = 0 := by
      rw [hfull, ← hcount]
      rfl
    rw [List.eq_nil_of_length_eq_zero hnone]
    rfl
  · rw [List.concat_eq_append, ← List.append_assoc, List.getLast?_concat, List.getLast?_concat]

/-- Where a listing stands after `n` pages of the entries, each of them full, or after its end. -/
inductive Scans (o : Opened) (start : Address) (e : Entries) (n : Nat) : Progress → Prop
  | running {seen rest : List Address} {delivered : List Bytes}
      (hunder : e.under start = seen ++ rest)
      (hseen : seen.map (StorageKeys.recoverKey start) = delivered.map .ok)
      (hfull : seen.length = n * o.config.pageSize.toNat) :
      Scans o start e n (.running (.page o start seen.getLast? delivered))
  | ended (delivered : List Bytes) (result : Except Error Output) :
      Scans o start e n (.ended delivered result)

namespace Scans

variable {start : Address} {p : Progress} {task : Task}

/-- **One more page.** -/
theorem answered (h : Scans o start s.best n p) : Scans o start s.best (n + 1) (p.answered r s) := by
  cases h with
  | ended delivered result => exact .ended delivered result
  | @running seen rest delivered hunder hseen hfull =>
    cases hclosed : s.closed with
    | true =>
      rw [answered_of_closed hclosed]
      exact .ended delivered _
    | false =>
      have hserve := serve_keys (r := r) hclosed start o.config.pageSize seen.getLast?
      rw [Entries.page_getLast? _ hunder] at hserve
      rw [Progress.answered_of_reply hserve]
      generalize hpage : rest.take o.config.pageSize.toNat = page
      simp only [Task.resume]
      rcases hkeys : keysOfPage start page with ⟨ks, stop⟩
      cases stop with
      | some failure => exact .ended _ _
      | none =>
        by_cases hshort : page.length < o.config.pageSize.toNat
        · simp only [if_pos hshort]
          exact .ended _ _
        · simp only [if_neg hshort]
          have hcount : page.length = o.config.pageSize.toNat := by
            rw [← hpage, List.length_take] at hshort ⊢
            omega
          rw [getLast?_of_full hfull hcount]
          have hsplit : s.best.under start =
              (seen ++ page) ++ rest.drop o.config.pageSize.toNat := by
            rw [List.append_assoc, ← hpage, List.take_append_drop, hunder]
          refine .running hsplit ?_ ?_
          · rw [List.map_append, List.map_append, hseen, map_recoverKey_of_keysOfPage hkeys]
          · rw [List.length_append, hfull, hcount, Nat.succ_mul]

theorem through (h : Scans o start s.best 0 p) (n : Nat) :
    Scans o start s.best n (p.through r (List.replicate n s)) := by
  induction n with
  | zero => exact h
  | succ n ih =>
    rw [List.replicate_succ', Progress.through_append]
    exact ih.answered

/-- All that a listing asks for is the next page. -/
theorem asks (h : Scans o start e n (.running task)) :
    ∃ after, task.request = .keys start o.config.pageSize after none := by
  cases h with
  | running => exact ⟨_, rfl⟩

/-- As long as it goes on, its pages have been filled with keys. -/
theorem length_le (h : Scans o start e n (.running task)) :
    n * o.config.pageSize.toNat ≤ (keysUnder e start).length := by
  cases h with
  | @running seen rest delivered hunder hseen hfull =>
    have hkeys : seen.filterMap (fun address => (StorageKeys.recoverKey start address).toOption) =
        delivered := by
      show seen.filterMap (Except.toOption ∘ StorageKeys.recoverKey start) = delivered
      rw [← List.filterMap_map, hseen, List.filterMap_map]
      exact List.filterMap_some
    unfold keysUnder
    rw [hunder, List.filterMap_append, hkeys, List.length_append]
    have hlength := congrArg List.length hseen
    rw [List.length_map, List.length_map, hfull] at hlength
    omega

theorem endsWithin (h : Scans o start s.best 0 p) (hsize : o.config.pageSize ≠ 0) :
    EndsWithin r s ((keysUnder s.best start).length / o.config.pageSize.toNat + 1) p := by
  have hcount : 0 < o.config.pageSize.toNat :=
    Nat.pos_of_ne_zero fun hzero => hsize (UInt32.toNat_inj.1 hzero)
  refine ⟨_, Nat.le_refl _, ?_⟩
  have hend := h.through (r := r) ((keysUnder s.best start).length / o.config.pageSize.toNat + 1)
  cases hp : p.through r (List.replicate _ s) with
  | ended delivered result => exact ⟨delivered, result, rfl⟩
  | running task =>
    rw [hp] at hend
    have hfits := hend.length_le
    have hmod := Nat.div_add_mod' (keysUnder s.best start).length o.config.pageSize.toNat
    have hrest := Nat.mod_lt (keysUnder s.best start).length hcount
    rw [Nat.succ_mul] at hfits
    omega

end Scans

/-! ## Every store -/

/-- At a ledger that stays as it is, a listing ends, and asks for no more pages than the keys of the
namespace fill, and for one. -/
def EndsInPages (r : Rules) (s : State) (store : Store) (ns : Bytes) : Prop :=
  ∃ keys : List Bytes, keys.Nodup ∧
    (∀ session, store.session = some session →
      ∀ key, key ∈ keys ↔ StoredUnder session.keys s.best ns key) ∧
    EndsWithin r s (keys.length / store.config.pageSize.toNat + 1) (store.listKeys ns)

/-- An open store lists a namespace in pages of no keys, and nothing refuses them. -/
structure Endless (s : State) (store : Store) (ns : Bytes) : Prop where
  pageSize_eq : store.config.pageSize = 0
  isOpen : store.session ≠ none
  ledger_isOpen : s.closed = false
  short : ns.length < UInt32.size

section Store

variable {store : Store} {session : Session}

/-- A closed store refuses to list, and no address is made of a name that is too long. -/
theorem listKeys_of_refused (h : store.session = none ∨ ¬ns.length < UInt32.size) :
    ∃ failure, store.listKeys ns = .ended [] (.error failure) := by
  obtain ⟨signer, config, session⟩ := store
  cases session with
  | none => exact ⟨_, start_of_closed rfl (.listKeys ns)⟩
  | some session =>
    obtain ⟨failure, hfailed⟩ :=
      listing_of_long (o := ⟨signer, config, session⟩) (h.resolve_left nofun)
    exact ⟨_, hfailed⟩

theorem listKeys_of_open (hsession : store.session = some session)
    (hns : ns.length < UInt32.size) :
    store.listKeys ns = .running (.page ⟨store.signer, store.config, session⟩
      (session.keys.namespaceAddress ns) none []) := by
  obtain ⟨signer, config, found⟩ := store
  cases hsession
  exact start_listKeys (o := ⟨signer, config, session⟩) hns

/-- At its start, a listing has seen nothing. -/
theorem scans_listKeys (hsession : store.session = some session) (hns : ns.length < UInt32.size) :
    Scans ⟨store.signer, store.config, session⟩ (session.keys.namespaceAddress ns) e 0
      (store.listKeys ns) := by
  rw [listKeys_of_open hsession hns]
  have hfirst : e.under (session.keys.namespaceAddress ns) =
      [] ++ e.under (session.keys.namespaceAddress ns) := rfl
  exact .running hfirst rfl (Nat.zero_mul _).symm

/-- It is enough that a listing ends once it has begun. -/
theorem endsInPages_of_begun (h : ∀ session, store.session = some session →
    ns.length < UInt32.size →
      EndsWithin r s ((keysUnder s.best (session.keys.namespaceAddress ns)).length /
        store.config.pageSize.toNat + 1) (store.listKeys ns)) : EndsInPages r s store ns := by
  by_cases hrefused : store.session = none ∨ ¬ns.length < UInt32.size
  · obtain ⟨failure, hfailed⟩ := listKeys_of_refused hrefused
    refine ⟨[], .nil, fun session hsession key => iff_of_false nofun ?_, 0, Nat.zero_le _, [], _,
      hfailed⟩
    rintro ⟨address, value, hderived, -⟩
    rw [hsession] at hrefused
    exact hrefused.resolve_left nofun (StorageKeys.deriveAddress_eq_ok_iff.1 hderived).1
  · rw [not_or, not_not] at hrefused
    obtain ⟨hopen, hns⟩ := hrefused
    obtain ⟨session, hsession⟩ := Option.ne_none_iff_exists'.1 hopen
    refine ⟨_, keysUnder_nodup s.best (session.keys.namespaceAddress ns), fun found hfound key => ?_,
      h session hsession hns⟩
    cases hsession.symm.trans hfound
    exact mem_keysUnder_iff hns

theorem endsInPages_of_pageSize (hsize : store.config.pageSize ≠ 0) : EndsInPages r s store ns := by
  refine endsInPages_of_begun fun session hsession hns => ?_
  exact (scans_listKeys hsession hns).endsWithin hsize

theorem endsInPages_of_closed (hclosed : s.closed = true) : EndsInPages r s store ns := by
  refine endsInPages_of_begun fun session hsession hns => ?_
  have hended := answered_of_closed (r := r) (o := ⟨store.signer, store.config, session⟩) hclosed
    (session.keys.namespaceAddress ns) none []
  rw [← listKeys_of_open hsession hns] at hended
  exact ⟨1, Nat.le_add_left _ _, [], _, hended⟩

/-- Only a listing of pages without keys need not end. -/
theorem endsInPages_of_not_endless (h : ¬Endless s store ns) : EndsInPages r s store ns := by
  by_cases hsize : store.config.pageSize = 0
  · cases hclosed : s.closed with
    | true => exact endsInPages_of_closed hclosed
    | false =>
      refine endsInPages_of_begun fun session hsession hns => absurd ?_ h
      exact ⟨hsize, by rw [hsession]; nofun, hclosed, hns⟩
  · exact endsInPages_of_pageSize hsize

/-- All that a listing asks for is pages of the size that the store was given, and a page is read
without a change. -/
theorem listKeys_asks {task : Task}
    (h : (store.listKeys ns).through r (List.replicate n s) = .running task) :
    (∃ start after, task.request = .keys start store.config.pageSize after none) ∧
      (s.serve r task.request).2 = s := by
  by_cases hrefused : store.session = none ∨ ¬ns.length < UInt32.size
  · obtain ⟨failure, hfailed⟩ := listKeys_of_refused hrefused
    rw [hfailed, Progress.through_ended] at h
    cases h
  · rw [not_or, not_not] at hrefused
    obtain ⟨session, hsession⟩ := Option.ne_none_iff_exists'.1 hrefused.1
    have hscans := (scans_listKeys (e := s.best) hsession hrefused.2).through (r := r) n
    rw [h] at hscans
    obtain ⟨after, hrequest⟩ := hscans.asks
    refine ⟨⟨_, after, hrequest⟩, ?_⟩
    rw [hrequest]
    rfl

/-- An endless listing waits for its first page for ever. -/
theorem Endless.through (h : Endless s store ns) (r : Rules) :
    ∃ task, ∀ n, (store.listKeys ns).through r (List.replicate n s) = .running task := by
  obtain ⟨session, hsession⟩ := Option.ne_none_iff_exists'.1 h.isOpen
  have hstart := listKeys_of_open hsession h.short
  refine ⟨_, fun n => Eq.trans ?_ hstart⟩
  induction n with
  | zero => rfl
  | succ n ih =>
    rw [List.replicate_succ', Progress.through_append, ih, hstart]
    exact answered_of_noKeys (r := r) h.ledger_isOpen h.pageSize_eq _

/-- A connection is made only with pages of at least one key. -/
theorem pageSize_ne_zero_of_connects {config : Config} {layout : Layout} {talk : List Exchange}
    (h : Connects layout (Connecting.start config) talk (.ended (.ok session))) :
    config.pageSize ≠ 0 := by
  intro hzero
  have hrefused : Connecting.start config =
      .ended (.error ⟨.config .pageSize, some (.connect, .validateConfig)⟩) := by
    unfold Connecting.start Config.validate
    rw [if_pos hzero]
    rfl
  rw [hrefused] at h
  cases h.of_ended.2

end Store

/-- **When a listing ends.** At a ledger that stays as it is, a store that was connected ends its listing
of any namespace, after no more pages than the keys of the namespace fill, and one. So does every other
store, with the one exception of a store that was given the page size zero together with its session:
its listing never ends. -/
theorem listKeys_ends (r : Rules) (s : State) (ns : Bytes) :
    (∀ signer config talk session,
      Connects config.layout (Connecting.start config) talk (.ended (.ok session)) →
        EndsInPages r s (withSession signer config session) ns) ∧
    ∀ store : Store,
      (∀ n task, (store.listKeys ns).through r (List.replicate n s) = .running task →
        (∃ start after, task.request = .keys start store.config.pageSize after none) ∧
          (s.serve r task.request).2 = s) ∧
      (¬Endless s store ns → EndsInPages r s store ns) ∧
      (Endless s store ns →
        ∃ task, ∀ n, (store.listKeys ns).through r (List.replicate n s) = .running task) := by
  refine ⟨fun signer config talk session hconnects => ?_, fun store => ⟨?_, ?_, ?_⟩⟩
  · exact endsInPages_of_pageSize (pageSize_ne_zero_of_connects hconnects)
  · intro n task hrunning
    exact listKeys_asks hrunning
  · exact endsInPages_of_not_endless
  · intro hendless
    exact hendless.through r

open Ed25519 (neutralKey) in
/-- Two keys, in pages of one at a store that was connected, and in pages of two and of none. -/
theorem listKeys_ends_filled :
    let c : Ledger.Config := {}
    let r := Rules.ofConfig c
    let ops : List Ledger.Op := [.submitNeutral neutralKey 0 (.set [7] [1] [2]),
      .submitNeutral neutralKey 1 (.set [7] [3] [4])]
    let talk : List Exchange := [⟨.runtimeSchema, .ok r.schema⟩, ⟨.genesisHash, .ok r.genesis⟩,
      ⟨.runtimeVersion, .ok r.version⟩]
    let store (size : UInt32) := withSession (.neutral neutralKey) { pageSize := size } c.session
    Connects c.layout (Connecting.start { pageSize := 1 }) talk (.ended (.ok c.session)) ∧
      EndsInPages r ((State.initial r).run r ops) (store 1) [7] ∧
      ¬Endless ((State.initial r).run r ops) (store 2) [7] ∧
      EndsInPages r ((State.initial r).run r ops) (store 2) [7] ∧
      Endless ((State.initial r).run r ops) (store 0) [7] ∧
      ∃ task, (∀ n, ((store 0).listKeys [7]).through r
          (List.replicate n ((State.initial r).run r ops)) = .running task) ∧
        ∃ start after, task.request = .keys start 0 after none := by
  intro c r ops talk store
  obtain ⟨hconnected, hall⟩ := listKeys_ends r ((State.initial r).run r ops) [7]
  have hsession : Connecting.conclude c.layout r.schema r.genesis r.version = .ok c.session :=
    conclude_eq_session ⟨by decide, by decide⟩
  have hconnects :
      Connects c.layout (Connecting.start { pageSize := 1 }) talk (.ended (.ok c.session)) := by
    refine .exchange (c := .schema) _ (.exchange (c := .genesis _) _
      (.exchange (c := .version _ _) _ ?_))
    rw [← hsession]
    exact .rest _
  have hclose : Ledger.Op.close ∉ ops := by simp [ops, Ledger.Op.submitNeutral]
  have htwo : ¬Endless ((State.initial r).run r ops) (store 2) [7] := by
    intro hendless
    exact absurd hendless.pageSize_eq (by decide)
  have hnone : Endless ((State.initial r).run r ops) (store 0) [7] :=
    ⟨rfl, Option.some_ne_none _, State.closed_run rfl hclose, by decide⟩
  obtain ⟨task, hrunning⟩ := (hall (store 0)).2.2 hnone
  exact ⟨hconnects, hconnected _ { pageSize := 1 } _ _ hconnects, htwo, (hall (store 2)).2.1 htwo,
    hnone, task, hrunning, ((hall (store 0)).1 0 task (hrunning 0)).1⟩

open Ed25519 (neutralKey) in
/-- At a new ledger, a store with pages of no keys never ends its listing. -/
theorem listKeys_endless :
    let c : Ledger.Config := {}
    let r := Rules.ofConfig c
    let s := (State.initial r).run r []
    let store := withSession (.neutral neutralKey) { pageSize := 0 } c.session
    ¬∃ n delivered result,
      (store.listKeys [7]).through r (List.replicate n s) = .ended delivered result := by
  intro c r s store
  rintro ⟨n, delivered, result, hended⟩
  have hendless : Endless s store [7] := ⟨rfl, Option.some_ne_none _, rfl, by decide⟩
  obtain ⟨task, hrunning⟩ := hendless.through r
  rw [hrunning n] at hended
  cases hended

end MetaLedger.Store
