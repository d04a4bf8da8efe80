import MetaLedger.Proofs.Store.Filed
import MetaLedger.Proofs.Store.Refinement

/-!
# Listing keys while others write

A listing asks for page after page, and between two pages anything may happen to the ledger. All it keeps
is the last address of the page before, which may be gone by then. It asks for what comes after it, so
the keys come in ascending order whatever is written, and a key that is there all the time is not passed
over: a page that stops short of it is full, and the next one goes on before it (`Enumerates.answered`).
-/

namespace MetaLedger.Store

open Ledger (Rules Entries State)

namespace Progress

/-- Goes on with a ledger's reply to the next request, if there is one at once. -/
def answered (r : Rules) (p : Progress) (s : State) : Progress :=
  match p with
  | running task =>
    match (s.serve r task.request).1 with
    | .reply value => task.resume value
    | .waiting _ => running task
  | ended keys result => ended keys result

/-- Goes on with a ledger's replies to the next requests, each from a state of its own. -/
def through (r : Rules) (p : Progress) (states : List State) : Progress :=
  states.foldl (answered r) p

/-- The keys that a listing has delivered so far. -/
def delivered : Progress → List Bytes
  | running (.page _ _ _ delivered) => delivered
  | running _ => []
  | ended delivered _ => delivered

theorem through_append (r : Rules) (p : Progress) (first second : List State) :
    p.through r (first ++ second) = (p.through r first).through r second := List.foldl_append

theorem through_ended (r : Rules) (states : List State) (keys : List Bytes)
    (result : Except Error Output) :
    (ended keys result).through r states = ended keys result := by
  induction states with
  | nil => rfl
  | cons s states ih => exact ih

theorem answered_of_reply {r : Rules} {task : Task} {s next : State}
    {value : task.request.Reply} (h : s.serve r task.request = (.reply value, next)) :
    (running task).answered r s = task.resume value := by
  unfold answered
  simp only [h]

end Progress

/-- The order in which keys are delivered. -/
abbrev Before (k l : Bytes) : Prop := Scale.encodeBytes k < Scale.encodeBytes l

/-- Something is stored under the namespace and key. -/
def Present (r : Rules) (e : Entries) (ns key : Bytes) : Prop :=
  ∃ address value, r.keys.deriveAddress ns key = .ok address ∧ e.get? address = some value

variable {r : Rules} {e : Entries} {s : State} {m : Contents} {o : Opened} {ns : Bytes}

theorem Holds.present_iff (h : Holds r e m) (hns : ns.length < UInt32.size) {key : Bytes} :
    Present r e ns key ↔ (m ns key).isSome := by
  constructor
  · rintro ⟨address, value, hderived, hget⟩
    obtain ⟨-, hkey, rfl⟩ := StorageKeys.deriveAddress_eq_ok_iff.1 hderived
    rw [h.records hns hkey] at hget
    obtain ⟨record, hrecord, -⟩ := Option.map_eq_some_iff.1 hget
    rw [hrecord]
    rfl
  · intro hsome
    have hkey := h.key_short hsome
    obtain ⟨record, hrecord⟩ := Option.isSome_iff_exists.1 hsome
    refine ⟨_, record.encode, StorageKeys.deriveAddress_of_short hns hkey, ?_⟩
    rw [h.records hns hkey, hrecord]
    rfl

/-! ## What a page adds -/

section Page

variable {keys : StorageKeys} {seen : List Bytes}

theorem recordAddress_lt_iff {k l : Bytes} :
    keys.recordAddress ns k < keys.recordAddress ns l ↔ Before k l :=
  ⟨lt_of_append_lt, List.append_left_lt⟩

/-- What comes after the last of ascending keys comes after all of them. -/
theorem isAfter_getLast?_iff (hordered : seen.Pairwise Before) {key : Bytes} :
    Entries.isAfter (seen.map (keys.recordAddress ns)).getLast? (keys.recordAddress ns key) = true ↔
      ∀ k ∈ seen, Before k key := by
  rcases List.eq_nil_or_concat seen with rfl | ⟨front, last, rfl⟩
  · exact iff_of_true rfl fun _ hk => nomatch hk
  · rw [List.concat_eq_append] at hordered ⊢
    rw [List.map_append, List.getLast?_append, List.map_cons, List.map_nil, List.getLast?_singleton,
      Option.some_or]
    show decide (keys.recordAddress ns last < keys.recordAddress ns key) = true ↔ _
    rw [decide_eq_true_eq, recordAddress_lt_iff]
    constructor
    · intro hlast k hk
      rcases List.mem_append.1 hk with hk | hk
      · have hlast' := (List.pairwise_append.1 hordered).2.2 k hk last (List.mem_singleton_self last)
        exact Std.lt_trans hlast' hlast
      · rw [List.mem_singleton.1 hk]
        exact hlast
    · intro hall
      exact hall last (List.mem_append_right _ (List.mem_singleton_self last))

/-- What a page adds to the keys that have been seen: the next ones, and all there are if they are
fewer than asked for. -/
structure Adds (e : Entries) (r : Rules) (ns : Bytes) (count : Nat) (seen page : List Bytes) :
    Prop where
  page_eq : e.page (r.keys.namespaceAddress ns) count
    (seen.map (r.keys.recordAddress ns)).getLast? = page.map (r.keys.recordAddress ns)
  present : ∀ key ∈ page, Present r e ns key
  short : ∀ key ∈ page, key.length < UInt32.size
  ordered : (seen ++ page).Pairwise Before
  /-- Who has not been passed over before is not passed over now. -/
  next : ∀ key, Present r e ns key → (∀ k ∈ seen, Before k key) →
    key ∈ page ∨ count ≤ page.length ∧ ∀ k ∈ page, Before k key

theorem Holds.exists_page (h : Holds r e m) (hns : ns.length < UInt32.size) (count : Nat)
    (hordered : seen.Pairwise Before) : ∃ page, Adds e r ns count seen page := by
  obtain ⟨ks, hunder, hmem, hascending⟩ := h.exists_keys hns
  let left := ks.filter fun key => ∀ k ∈ seen, Before k key
  have hleft : ∀ key, key ∈ left ↔ Present r e ns key ∧ ∀ k ∈ seen, Before k key := by
    intro key
    rw [h.present_iff hns, ← hmem]
    exact List.mem_filter.trans (and_congr_right fun _ => decide_eq_true_iff)
  have hleft' : left.Pairwise Before := hascending.filter _
  have hpage : ∀ key ∈ left.take count, Present r e ns key := by
    intro key hkey
    exact ((hleft key).1 (List.mem_of_mem_take hkey)).1
  refine ⟨left.take count, ?_, hpage, ?_, ?_, ?_⟩
  · rw [Entries.page_eq, hunder, List.filter_map, List.map_take]
    congr 2
    refine List.filter_congr fun key _ => ?_
    rw [Bool.eq_iff_iff, decide_eq_true_iff]
    exact isAfter_getLast?_iff hordered
  · intro key hkey
    exact h.key_short ((h.present_iff hns).1 (hpage key hkey))
  · refine List.pairwise_append.2 ⟨hordered, hleft'.sublist (List.take_sublist _ _), ?_⟩
    intro k hk key hkey
    exact ((hleft key).1 (List.mem_of_mem_take hkey)).2 k hk
  · intro key hpresent hbeyond
    have hkey : key ∈ left.take count ++ left.drop count := by
      rw [List.take_append_drop]
      exact (hleft key).2 ⟨hpresent, hbeyond⟩
    rcases List.mem_append.1 hkey with hkey | hkey
    · exact .inl hkey
    · refine .inr ⟨?_, ?_⟩
      · have hlength := List.length_pos_of_mem hkey
        rw [List.length_drop] at hlength
        rw [List.length_take]
        omega
      · intro k hk
        rw [← List.take_append_drop count left] at hleft'
        exact (List.pairwise_append.1 hleft').2.2 k hk key hkey

end Page

/-! ## From page to page -/

/-- Where a listing stands that was answered from these states. -/
inductive Enumerates (r : Rules) (o : Opened) (ns : Bytes) (states : List State) : Progress → Prop
  | running {seen : List Bytes} (hordered : seen.Pairwise Before)
      (hpassed : ∀ key, (∀ s ∈ states, Present r s.best ns key) →
        key ∈ seen ∨ ∀ k ∈ seen, Before k key) :
      Enumerates r o ns states (.running (.page o (r.keys.namespaceAddress ns)
        (seen.map (r.keys.recordAddress ns)).getLast? seen))
  | finished {keys : List Bytes} {output : Output} (hordered : keys.Pairwise Before)
      (hall : ∀ key, (∀ s ∈ states, Present r s.best ns key) → key ∈ keys) :
      Enumerates r o ns states (.ended keys (.ok output))
  | failed {keys : List Bytes} {failure : Error} (hordered : keys.Pairwise Before)
      (hfailure : ¬failure.Undecodable) : Enumerates r o ns states (.ended keys (.error failure))

namespace Enumerates

variable {states : List State} {p : Progress}

theorem delivered (h : Enumerates r o ns states p) : p.delivered.Pairwise Before := by
  cases h with
  | running hordered hpassed => exact hordered
  | finished hordered hall => exact hordered
  | failed hordered hfailure => exact hordered

/-- **One more page.** It adds keys that are there, and passes over none. -/
theorem answered (h : Enumerates r o ns states p) (hns : ns.length < UInt32.size)
    (hsize : o.config.pageSize ≠ 0) (hs : ∃ m, Holds r s.best m) :
    Enumerates r o ns (states ++ [s]) (p.answered r s) ∧
      ∃ page, (p.answered r s).delivered = p.delivered ++ page ∧
        ∀ key ∈ page, Present r s.best ns key := by
  have hbefore : ∀ key, (∀ t ∈ states ++ [s], Present r t.best ns key) →
      (∀ t ∈ states, Present r t.best ns key) ∧ Present r s.best ns key := by
    intro key hkey
    exact ⟨fun t ht => hkey t (List.mem_append_left _ ht),
      hkey s (List.mem_append_right _ (List.mem_singleton_self s))⟩
  cases h with
  | @finished keys output hordered hall =>
    refine ⟨.finished hordered fun key hkey => hall key (hbefore key hkey).1, [], ?_, nofun⟩
    exact (List.append_nil keys).symm
  | @failed keys failure hordered hfailure =>
    exact ⟨.failed hordered hfailure, [], (List.append_nil keys).symm, nofun⟩
  | @running seen hordered hpassed =>
    cases hclosed : s.closed with
    | true =>
      -- The listing fails here, but not because of a key.
      have hserve : s.serve r (.keys (r.keys.namespaceAddress ns) o.config.pageSize
          (seen.map (r.keys.recordAddress ns)).getLast? none) = (.reply (.error .closed), s) := by
        unfold State.serve State.keys
        rw [hclosed]
        rfl
      rw [Progress.answered_of_reply hserve]
      refine ⟨.failed hordered ?_, [], (List.append_nil seen).symm, nofun⟩
      rintro (hstep | ⟨failure, hcause⟩)
      · cases hstep
      · cases hcause
    | false =>
      obtain ⟨m, hholds⟩ := hs
      obtain ⟨page, hadds⟩ := hholds.exists_page hns o.config.pageSize.toNat hordered
      have hserve := serve_keys (r := r) hclosed (r.keys.namespaceAddress ns) o.config.pageSize
        (seen.map (r.keys.recordAddress ns)).getLast?
      rw [hadds.page_eq] at hserve
      rw [Progress.answered_of_reply hserve, resume_page hadds.short]
      have hcount : 0 < o.config.pageSize.toNat :=
        Nat.pos_of_ne_zero fun hzero => hsize (UInt32.toNat_inj.1 hzero)
      -- Nothing is left behind a page that is not full; behind a full one, what has always been there
      -- is still to come.
      by_cases hlast : page.length < o.config.pageSize.toNat
      · rw [if_pos hlast]
        refine ⟨.finished hadds.ordered ?_, page, rfl, hadds.present⟩
        intro key hkey
        obtain ⟨hkeys, hnow⟩ := hbefore key hkey
        rcases hpassed key hkeys with hseen | hbeyond
        · exact List.mem_append_left _ hseen
        · rcases hadds.next key hnow hbeyond with hpage | ⟨hfull, -⟩
          · exact List.mem_append_right _ hpage
          · omega
      · rw [if_neg hlast, ← getLast?_map_append _ seen (by omega)]
        refine ⟨.running hadds.ordered ?_, page, rfl, hadds.present⟩
        intro key hkey
        obtain ⟨hkeys, hnow⟩ := hbefore key hkey
        rcases hpassed key hkeys with hseen | hbeyond
        · exact .inl (List.mem_append_left _ hseen)
        · rcases hadds.next key hnow hbeyond with hpage | ⟨-, hbeyond'⟩
          · exact .inl (List.mem_append_right _ hpage)
          · refine .inr fun k hk => ?_
            rcases List.mem_append.1 hk with hk | hk
            · exact hbeyond k hk
            · exact hbeyond' k hk

theorem through (h : Enumerates r o ns states p) (hns : ns.length < UInt32.size)
    (hsize : o.config.pageSize ≠ 0) {more : List State} (hmore : ∀ s ∈ more, ∃ m, Holds r s.best m) :
    Enumerates r o ns (states ++ more) (p.through r more) := by
  induction more generalizing states p with
  | nil =>
    rw [List.append_nil]
    exact h
  | cons s more ih =>
    have hnext := (h.answered hns hsize (hmore s List.mem_cons_self)).1
    have hrest := ih hnext fun t ht => hmore t (List.mem_cons_of_mem _ ht)
    rwa [List.append_assoc] at hrest

end Enumerates

/-! ## Setting off -/

variable (o ns) in
/-- A listing of a store that is open. -/
def listing : Progress := listKeys ⟨o.signer, o.config, some o.session⟩ ns

theorem listing_of_long (hns : ¬ns.length < UInt32.size) :
    ∃ failure, listing o ns =
      .ended [] (.error ⟨.addressDerivation failure, some (.listKeys, .deriveAddress)⟩) := by
  have hlisting : listing o ns =
      Progress.andThen (o.namespaceAddress ns) fun start => .running (.page o start none []) := rfl
  cases hunder : o.session.keys.namespacePrefix ns with
  | error failure =>
    refine ⟨failure, ?_⟩
    rw [hlisting]
    unfold Opened.namespaceAddress
    rw [hunder]
    rfl
  | ok start => exact absurd (StorageKeys.namespacePrefix_eq_ok_iff.1 hunder).1 hns

theorem enumerates_listing (hkeys : o.session.keys = r.keys) (hns : ns.length < UInt32.size) :
    Enumerates r o ns [] (listing o ns) := by
  unfold listing
  rw [← Command.start, start_listKeys hns, hkeys]
  exact .running .nil fun _ _ => .inr fun _ hk => nomatch hk

/-! ## A ledger that does not change -/

section Unchanging

variable (hopen : s.closed = false) {seen rest : List Bytes}
  (hunder : s.best.under (r.keys.namespaceAddress ns) =
    (seen ++ rest).map (r.keys.recordAddress ns))
  (hshort : ∀ key ∈ seen ++ rest, key.length < UInt32.size) (hsize : 0 < o.config.pageSize.toNat)

include hopen hunder

theorem answered_page :
    (Progress.running (.page o (r.keys.namespaceAddress ns)
      (seen.map (r.keys.recordAddress ns)).getLast? seen)).answered r s =
    (Task.page o (r.keys.namespaceAddress ns) (seen.map (r.keys.recordAddress ns)).getLast?
      seen).resume (.ok ((rest.take o.config.pageSize.toNat).map (r.keys.recordAddress ns))) := by
  have hserve := serve_keys (r := r) hopen (r.keys.namespaceAddress ns) o.config.pageSize
    (seen.map (r.keys.recordAddress ns)).getLast?
  rw [List.map_append] at hunder
  rw [Entries.page_getLast? _ hunder, ← List.map_take] at hserve
  exact Progress.answered_of_reply hserve

include hshort

/-- A page that is not full is the last one. -/
theorem answered_lastPage (hlast : rest.length < o.config.pageSize.toNat) :
    (Progress.running (.page o (r.keys.namespaceAddress ns)
      (seen.map (r.keys.recordAddress ns)).getLast? seen)).answered r s =
    .ended (seen ++ rest) (.ok .done) := by
  have hall : rest.take o.config.pageSize.toNat = rest :=
    List.take_of_length_le (Nat.le_of_lt hlast)
  have hrest : ∀ key ∈ rest, key.length < UInt32.size := fun key hkey =>
    hshort key (List.mem_append_right _ hkey)
  rw [answered_page hopen hunder, hall, resume_page hrest, if_pos hlast]

include hsize in
/-- After a full page the listing goes on behind it. -/
theorem answered_fullPage (hfull : o.config.pageSize.toNat ≤ rest.length) :
    (Progress.running (.page o (r.keys.namespaceAddress ns)
      (seen.map (r.keys.recordAddress ns)).getLast? seen)).answered r s =
    .running (.page o (r.keys.namespaceAddress ns)
      ((seen ++ rest.take o.config.pageSize.toNat).map (r.keys.recordAddress ns)).getLast?
      (seen ++ rest.take o.config.pageSize.toNat)) := by
  have hlength : (rest.take o.config.pageSize.toNat).length = o.config.pageSize.toNat :=
    List.length_take_of_le hfull
  have htake : ∀ key ∈ rest.take o.config.pageSize.toNat, key.length < UInt32.size :=
    fun key hkey => hshort key (List.mem_append_right _ (List.mem_of_mem_take hkey))
  rw [answered_page hopen hunder, resume_page htake, if_neg (by omega),
    ← getLast?_map_append _ seen (by omega)]

end Unchanging

section Unchanging

variable {ks : List Bytes} (hopen : s.closed = false)
  (hunder : s.best.under (r.keys.namespaceAddress ns) = ks.map (r.keys.recordAddress ns))
  (hshort : ∀ key ∈ ks, key.length < UInt32.size) (hsize : 0 < o.config.pageSize.toNat)
  (hkeys : o.session.keys = r.keys) (hns : ns.length < UInt32.size)

include hopen hunder hshort hsize hkeys hns

/-- As long as the pages are full, they deliver the first keys there are. -/
theorem listing_full {n : Nat} (hn : n * o.config.pageSize.toNat ≤ ks.length) :
    (listing o ns).through r (List.replicate n s) =
      .running (.page o (r.keys.namespaceAddress ns)
        ((ks.take (n * o.config.pageSize.toNat)).map (r.keys.recordAddress ns)).getLast?
        (ks.take (n * o.config.pageSize.toNat))) := by
  induction n with
  | zero =>
    rw [Nat.zero_mul, List.take_zero]
    unfold listing
    rw [← Command.start, start_listKeys hns, hkeys]
    rfl
  | succ n ih =>
    rw [Nat.succ_mul] at hn ⊢
    have hsplit := List.take_append_drop (n * o.config.pageSize.toNat) ks
    rw [List.replicate_succ', Progress.through_append, ih (by omega), List.take_add]
    rw [← hsplit] at hunder hshort
    refine answered_fullPage hopen hunder hshort hsize ?_
    rw [List.length_drop]
    omega

/-- Whatever the page size, the listing delivers all keys, with one page more than there are full
ones. -/
theorem listing_all :
    (listing o ns).through r (List.replicate (ks.length / o.config.pageSize.toNat + 1) s) =
      .ended ks (.ok .done) := by
  have hn := Nat.div_mul_le_self ks.length o.config.pageSize.toNat
  have hmod := Nat.mod_lt ks.length hsize
  have hdiv := Nat.div_add_mod' ks.length o.config.pageSize.toNat
  have hsplit :=
    List.take_append_drop (ks.length / o.config.pageSize.toNat * o.config.pageSize.toNat) ks
  rw [List.replicate_succ', Progress.through_append,
    listing_full hopen hunder hshort hsize hkeys hns hn]
  have hlast : (ks.drop
      (ks.length / o.config.pageSize.toNat * o.config.pageSize.toNat)).length <
      o.config.pageSize.toNat := by
    rw [List.length_drop]
    omega
  have hunder' := hunder
  have hshort' := hshort
  rw [← hsplit] at hunder' hshort'
  refine (answered_lastPage hopen hunder' hshort' hlast).trans ?_
  rw [hsplit]

end Unchanging

/-! ## Every ledger -/

/-- What is so of a listing whose pages are read from any states of a ledger. -/
structure Enumeration (r : Rules) (ns : Bytes) (listing : Progress) (states : List State) : Prop where
  decodes : ∀ keys failure, listing.through r states = .ended keys (.error failure) →
    ¬failure.Undecodable
  ascending : (listing.through r states).delivered.Pairwise Before
  distinct : (listing.through r states).delivered.Nodup
  /-- What a page adds is there in the state that it is read from. -/
  stored : ∀ before s after, states = before ++ s :: after →
    ∃ page, (listing.through r (before ++ [s])).delivered =
        (listing.through r before).delivered ++ page ∧
      ∀ key ∈ page, Present r s.best ns key
  complete : ∀ keys output, listing.through r states = .ended keys (.ok output) →
    ∀ key, (∀ s ∈ states, Present r s.best ns key) → key ∈ keys

theorem nodup_of_ordered {keys : List Bytes} (h : keys.Pairwise Before) : keys.Nodup := by
  refine List.Pairwise.imp ?_ h
  intro k l hbefore heq
  rw [heq] at hbefore
  exact Std.lt_irrefl hbefore

theorem enumeration_of_holds {states : List State} (hkeys : o.session.keys = r.keys)
    (hsize : o.config.pageSize ≠ 0) (hstates : ∀ s ∈ states, ∃ m, Holds r s.best m) :
    Enumeration r ns (listing o ns) states := by
  by_cases hns : ns.length < UInt32.size
  · have hstart := enumerates_listing (o := o) hkeys hns
    have hend : Enumerates r o ns states ((listing o ns).through r states) :=
      hstart.through hns hsize hstates
    refine ⟨?_, hend.delivered, nodup_of_ordered hend.delivered, ?_, ?_⟩
    · intro keys failure heq
      rw [heq] at hend
      cases hend with
      | failed hordered hfailure => exact hfailure
    · rintro before s after rfl
      have hbefore := hstart.through hns hsize fun t ht => hstates t (List.mem_append_left _ ht)
      rw [Progress.through_append]
      exact (hbefore.answered hns hsize
        (hstates s (List.mem_append_right _ List.mem_cons_self))).2
    · intro keys output heq
      rw [heq] at hend
      cases hend with
      | finished hordered hall => exact hall
  · -- Of a name that is too long no address is made.
    obtain ⟨failure, hfailed⟩ := listing_of_long (o := o) hns
    have hend : ∀ states, (listing o ns).through r states = listing o ns := by
      intro states
      rw [hfailed, Progress.through_ended]
    refine ⟨?_, ?_, ?_, ?_, ?_⟩
    · intro keys other heq
      rw [hend, hfailed] at heq
      cases heq
      rintro (hstep | ⟨failure, hcause⟩)
      · cases hstep
      · cases hcause
    · rw [hend, hfailed]
      exact .nil
    · rw [hend, hfailed]
      exact .nil
    · intro before s after _
      refine ⟨[], ?_, nofun⟩
      rw [hend, hend, List.append_nil]
    · intro keys output heq
      rw [hend, hfailed] at heq
      cases heq

/-- **Listing keys under concurrent writes.** Whatever happens to a ledger between the pages of a
listing, every key is read, the keys come in ascending order and each was there when its page was read,
and a listing that ends well has delivered every key that was there all the time. At a ledger that does
not change, it delivers exactly the keys of the namespace, whatever the page size. -/
theorem listing_enumerates (c : Ledger.Config) (separate : (StorageKeys.ofLayout c.layout).Separate)
    (o : Opened) (hkeys : o.session.keys = StorageKeys.ofLayout c.layout)
    (hsize : o.config.pageSize ≠ 0) (ns : Bytes) :
    let r := Rules.ofConfig c
    (∀ states : List State, (∀ s ∈ states, ∃ ops, s = (State.initial r).run r ops) →
      Enumeration r ns (listing o ns) states) ∧
    ∀ ops, let s := (State.initial r).run r ops
      s.closed = false → ns.length < UInt32.size →
        ∃ n keys, (listing o ns).through r (List.replicate n s) = .ended keys (.ok .done) ∧
          keys.Nodup ∧ ∀ key, key ∈ keys ↔ Present r s.best ns key := by
  intro r
  have hholds : ∀ ops, ∃ m, Holds r ((State.initial r).run r ops).best m := by
    intro ops
    obtain ⟨m, hfiled⟩ := ((InOrder.initial r).run separate ops).best
    exact ⟨m, hfiled.holds⟩
  refine ⟨?_, ?_⟩
  · intro states hreachable
    refine enumeration_of_holds hkeys hsize fun s hs => ?_
    obtain ⟨ops, rfl⟩ := hreachable s hs
    exact hholds ops
  · intro ops s hopen hns
    obtain ⟨m, hm⟩ := hholds ops
    obtain ⟨ks, hunder, hmem, hordered⟩ := hm.exists_keys hns
    have hshort : ∀ key ∈ ks, key.length < UInt32.size := fun key hkey =>
      hm.key_short ((hmem key).1 hkey)
    have hpositive : 0 < o.config.pageSize.toNat :=
      Nat.pos_of_ne_zero fun hzero => hsize (UInt32.toNat_inj.1 hzero)
    refine ⟨_, ks, listing_all hopen hunder hshort hpositive hkeys hns, nodup_of_ordered hordered, ?_⟩
    intro key
    rw [hmem, hm.present_iff hns]

open Ed25519 (neutralKey) in
/-- The key of the first page is gone when the second one is read. -/
theorem listing_enumerates_removed :
    let c : Ledger.Config := {}
    let r := Rules.ofConfig c
    let o : Opened := ⟨.neutral neutralKey, { pageSize := 1 }, c.session⟩
    let first : List Ledger.Op := [.submitNeutral neutralKey 0 (.set [7] [1] [2]),
      .submitNeutral neutralKey 1 (.set [7] [3] [4])]
    let second := first ++ [.submitNeutral neutralKey 2 (.delete [7] [1])]
    Enumeration r [7] (listing o [7]) [(State.initial r).run r first, (State.initial r).run r second] ∧
      ∃ n keys, (listing o [7]).through r (List.replicate n ((State.initial r).run r second)) =
        .ended keys (.ok .done) ∧ keys.Nodup ∧
        ∀ key, key ∈ keys ↔ Present r ((State.initial r).run r second).best [7] key := by
  intro c r o first second
  have separate : (StorageKeys.ofLayout c.layout).Separate := by decide +kernel
  obtain ⟨hstates, hsame⟩ := listing_enumerates c separate o rfl (by decide) [7]
  refine ⟨hstates _ ?_, hsame second ?_ (by decide)⟩
  · intro s hs
    rcases List.mem_cons.1 hs with hs | hs
    · exact ⟨first, hs⟩
    · exact ⟨second, List.mem_singleton.1 hs⟩
  · have hclose : Ledger.Op.close ∉ second := by simp [second, first, Ledger.Op.submitNeutral]
    exact State.closed_run rfl hclose

end MetaLedger.Store
