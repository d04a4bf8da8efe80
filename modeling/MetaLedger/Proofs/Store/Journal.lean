import MetaLedger.Proofs.Ledger.Effects
import MetaLedger.Proofs.Ledger.Records
import MetaLedger.Proofs.Store.Holds

/-!
# The log is a faithful journal

Records are kept twice: as entries at the head, and as a log of what was done. Whoever replays the log
from its beginning learns who owns the record of which namespace and key, without reading an entry
(`run_journal`). Events are logged after the entries of a block have been replaced, so the two are
compared transaction by transaction, over the map that the entries hold: each event fits what the log
has come to before it, and takes it to what the map has become (`Holds.execute_event`). A block is a run
of these, and between blocks neither changes (`Journaling`).
-/

namespace MetaLedger

namespace Ledger

/-- Who owns the record of which namespace and key. -/
abbrev Owners := Bytes → Bytes → Option AccountId

namespace Event

/-- What an event makes of the owners. -/
def replay (owners : Owners) : Event → Owners
  | created ns key owner => fun n k => if n = ns ∧ k = key then some owner else owners n k
  | removed ns key _ => fun n k => if n = ns ∧ k = key then none else owners n k
  | updated _ _ _ | failed _ => owners

/-- What an event tells can have happened to records of these owners. -/
def Fits (owners : Owners) : Event → Prop
  | created ns key _ => owners ns key = none
  | updated ns key owner | removed ns key owner => owners ns key = some owner
  | failed _ => True

end Event

/-- The owners that a log comes to, from its beginning on. -/
def replay (log : List LoggedEvent) : Owners :=
  log.foldl (fun owners x => x.event.replay owners) fun _ _ => none

/-- Each event fits what those before it come to. -/
def Coherent (log : List LoggedEvent) : Prop :=
  ∀ before x later, log = before ++ x :: later → x.event.Fits (replay before)

section Log

variable {log : List LoggedEvent} {x : LoggedEvent}

theorem replay_concat (log : List LoggedEvent) (x : LoggedEvent) :
    replay (log ++ [x]) = x.event.replay (replay log) := by
  unfold replay
  rw [List.foldl_append]
  rfl

theorem coherent_nil : Coherent [] := by
  intro before x later h
  simp at h

theorem Coherent.concat (h : Coherent log) (hfits : x.event.Fits (replay log)) :
    Coherent (log ++ [x]) := by
  intro before y later heq
  rcases List.eq_nil_or_concat later with rfl | ⟨rest, last, rfl⟩
  · obtain ⟨rfl, hxy⟩ := List.append_inj' heq rfl
    cases hxy
    exact hfits
  · rw [List.concat_eq_append, ← List.cons_append, ← List.append_assoc] at heq
    obtain ⟨rfl, -⟩ := List.append_inj' heq rfl
    exact h before y rest rfl

end Log

end Ledger

namespace Store

open Ledger (Rules Entries State PoolEntry Owners LoggedEvent Included Chronicle replay Coherent)

variable {r : Rules} {e : Entries} {m : Contents} {log : List LoggedEvent}

/-! ## One transaction -/

/-- The owners of the records. -/
def Contents.owners (m : Contents) : Owners := fun ns key => (m ns key).map Record.owner

theorem Contents.owners_put (m : Contents) (ns key : Bytes) (record : Option Record) :
    (m.put ns key record).owners =
      fun n k => if n = ns ∧ k = key then record.map Record.owner else m.owners n k := by
  funext n k
  unfold owners put
  split <;> rfl

/-- Whoever changes a record's data leaves the owners as they are. -/
theorem Contents.owners_update {ns key : Bytes} {record : Record} (h : m ns key = some record)
    (data : Bytes) : (m.put ns key (some { record with data })).owners = m.owners := by
  rw [owners_put]
  funext n k
  split
  · next same =>
    obtain ⟨rfl, rfl⟩ := same
    unfold owners
    rw [h]
    rfl
  · rfl

/-- An event tells what becomes of the map: it can have happened, and takes the owners to the next
ones. -/
theorem Holds.execute_event (separate : r.keys.Separate) (h : Holds r e m) (tx : PoolEntry)
    (hshort : tx.call.Short) :
    let event := (r.execute e tx).2.event
    event.Fits m.owners ∧ event.replay m.owners = (m.call tx.signer tx.call).1.owners := by
  intro event
  have hcounted := h.bumpNonce separate tx.signer
  have hdispatch := hcounted.dispatch_eq tx.signer hshort
  unfold event Rules.execute
  simp only [hdispatch]
  generalize tx.signer = signer at *
  generalize tx.call = c at *
  cases c with
  | set ns key data =>
    simp only [Call.ns, Call.key, Contents.call]
    cases hm : m ns key with
    | none =>
      refine ⟨?_, ?_⟩
      · show (m ns key).map Record.owner = none
        rw [hm]
        rfl
      · rw [Contents.owners_put]
        rfl
    | some record => exact ⟨trivial, rfl⟩
  | delete ns key =>
    simp only [Call.ns, Call.key, Contents.call]
    cases hm : m ns key with
    | none => exact ⟨trivial, rfl⟩
    | some record =>
      by_cases howner : record.owner = signer
      · simp only [Rules.apply, howner, if_true]
        refine ⟨?_, ?_⟩
        · show (m ns key).map Record.owner = some signer
          rw [hm, Option.map_some, howner]
        · rw [Contents.owners_put]
          rfl
      · simp only [Rules.apply, howner, if_false]
        exact ⟨trivial, rfl⟩
  | update ns key data =>
    simp only [Call.ns, Call.key, Contents.call]
    cases hm : m ns key with
    | none => exact ⟨trivial, rfl⟩
    | some record =>
      by_cases howner : record.owner = signer
      · subst howner
        simp only [Rules.apply, if_true]
        refine ⟨?_, (Contents.owners_update hm data).symm⟩
        show (m ns key).map Record.owner = some record.owner
        rw [hm, Option.map_some]
      · simp only [Rules.apply, howner, if_false]
        exact ⟨trivial, rfl⟩

/-! ## One block -/

/-- The log tells of the records that the entries hold. -/
structure Tells (r : Rules) (e : Entries) (m : Contents) (log : List LoggedEvent) : Prop where
  holds : Holds r e m
  owners : replay log = m.owners
  coherent : Coherent log

theorem Tells.execute (separate : r.keys.Separate) (h : Tells r e m log) (block : Nat)
    (tx : PoolEntry) (hshort : tx.call.Short) :
    Tells r (r.execute e tx).1 (m.call tx.signer tx.call).1
      (log ++ [⟨block, tx.hash, (r.execute e tx).2.event⟩]) := by
  obtain ⟨hfits, hreplay⟩ := h.holds.execute_event separate tx hshort
  rw [← h.owners] at hfits hreplay
  refine ⟨(h.holds.execute separate tx hshort).1, ?_, h.coherent.concat hfits⟩
  rw [Ledger.replay_concat]
  exact hreplay

theorem Tells.executeAll (separate : r.keys.Separate) (h : Tells r e m log) (block : Nat)
    {txs : List PoolEntry} (hshort : ∀ tx ∈ txs, tx.call.Short) :
    ∃ m', Tells r (r.executeAll e txs).1 m'
      (log ++ (r.includeAll block e txs).map Included.logged) := by
  induction txs generalizing e m log with
  | nil =>
    refine ⟨m, ?_⟩
    simpa [Rules.includeAll, Rules.executeAll] using h
  | cons tx rest ih =>
    have hfirst := h.execute separate block tx (hshort tx List.mem_cons_self)
    obtain ⟨m', hrest⟩ := ih hfirst fun other hother => hshort other (List.mem_cons_of_mem _ hother)
    refine ⟨m', ?_⟩
    rw [List.append_assoc] at hrest
    exact hrest

/-! ## Every run -/

/-- What is kept up from operation to operation. -/
structure Journaling (r : Rules) (s : State) (executed : List PoolEntry) : Prop where
  tells : ∃ m, Tells r s.best m s.events
  short : ∀ e ∈ s.ready ++ s.future, e.call.Short
  hash_eq : ∀ e ∈ executed ++ (s.ready ++ s.future), e.hash = e.extrinsic.hash
  logged : s.events.map (·.tx) = executed.map (·.hash)
  ordered : (s.events.map (·.block)).Pairwise (· ≤ ·)
  block_le : ∀ x ∈ s.events, x.block ≤ s.number

namespace Journaling

variable {s : State} {executed : List PoolEntry}

theorem initial (r : Rules) : Journaling r (State.initial r) [] where
  tells := ⟨_, Holds.empty r, rfl, Ledger.coherent_nil⟩
  short := nofun
  hash_eq := nofun
  logged := rfl
  ordered := .nil
  block_le := nofun

theorem accept (h : Journaling r s executed) {x : Extrinsic} {call : Call}
    {placement : Ledger.Placement} (hvalid : s.Valid r x call placement) (watched : Bool) :
    Journaling r (s.accept r x watched call placement) executed := by
  have hperm := State.accept_perm r x watched call placement s
  refine ⟨?_, ?_, ?_, ?_, ?_, ?_⟩
  · rw [State.accept_best, State.accept_events]
    exact h.tells
  · intro e he
    rcases List.mem_append.1 (hperm.mem_iff.1 he) with he | he
    · exact h.short e he
    · obtain ⟨_, _, hshort, _⟩ := Rules.call?_eq_some_iff.1 hvalid.call_eq
      rw [List.mem_singleton.1 he]
      exact hshort
  · intro e he
    rcases List.mem_append.1 he with he | he
    · exact h.hash_eq e (List.mem_append_left _ he)
    · rcases List.mem_append.1 (hperm.mem_iff.1 he) with he | he
      · exact h.hash_eq e (List.mem_append_right _ he)
      · rw [List.mem_singleton.1 he]
  · rw [State.accept_events]
    exact h.logged
  · rw [State.accept_events]
    exact h.ordered
  · rw [State.accept_events, State.accept_number]
    exact h.block_le

/-- What a block adds to the log comes after all that has been logged, and carries its number. -/
theorem sealBlock (separate : r.keys.Separate) (h : Journaling r s executed) :
    Journaling r (s.sealBlock r) (executed ++ s.ready) := by
  obtain ⟨m, htells⟩ := h.tells
  have hevents : (s.sealBlock r).events =
      s.events ++ (r.includeAll (s.number + 1) s.best s.ready).map Included.logged := by
    rw [State.sealBlock_events, Rules.includeAll_logged]
  have hblocks : ∀ x ∈ (r.includeAll (s.number + 1) s.best s.ready).map Included.logged,
      x.block = s.number + 1 := by
    intro x hx
    obtain ⟨i, hi, rfl⟩ := List.mem_map.1 hx
    exact Rules.includeAll_block r _ _ _ i hi
  have hperm := State.sealBlock_perm r s
  refine ⟨?_, ?_, ?_, ?_, ?_, ?_⟩
  · rw [State.sealBlock_best, hevents]
    apply htells.executeAll separate
    intro tx htx
    exact h.short tx (List.mem_append_left _ htx)
  · intro e he
    exact h.short e (List.mem_append_right _ (hperm.mem_iff.1 he))
  · intro e he
    apply h.hash_eq e
    rcases List.mem_append.1 he with he | he
    · simp only [List.mem_append] at he ⊢
      tauto
    · simp only [List.mem_append]
      exact .inr (.inr (hperm.mem_iff.1 he))
  · have htx : ∀ txs : List Included,
        (txs.map Included.logged).map (·.tx) = (txs.map (·.tx)).map (·.hash) := by
      intro txs
      rw [List.map_map, List.map_map]
      rfl
    rw [hevents, List.map_append, h.logged, htx, Rules.includeAll_tx, List.map_append]
  · rw [hevents, List.map_append]
    refine List.pairwise_append.2 ⟨h.ordered, ?_, ?_⟩
    · refine List.pairwise_map.2 (List.pairwise_of_forall_mem_list ?_)
      intro x hx y hy
      exact Nat.le_of_eq ((hblocks x hx).trans (hblocks y hy).symm)
    · intro a ha b hb
      obtain ⟨x, hx, rfl⟩ := List.mem_map.1 ha
      obtain ⟨y, hy, rfl⟩ := List.mem_map.1 hb
      have hle := h.block_le x hx
      rw [hblocks y hy]
      omega
  · intro x hx
    rw [State.sealBlock_number]
    rw [hevents] at hx
    rcases List.mem_append.1 hx with hx | hx
    · exact Nat.le_succ_of_le (h.block_le x hx)
    · exact Nat.le_of_eq (hblocks x hx)

theorem fund (separate : r.keys.Separate) (h : Journaling r s executed) (account : AccountId)
    (free : Amount) : Journaling r (s.fund r account free) executed := by
  obtain ⟨m, hholds, howners, hcoherent⟩ := h.tells
  exact ⟨⟨m, hholds.insertAccount separate account _, howners, hcoherent⟩, h.short, h.hash_eq,
    h.logged, h.ordered, h.block_le⟩

theorem close (h : Journaling r s executed) (hopen : s.closed = false) :
    Journaling r s.close executed := by
  unfold State.close
  rw [hopen, if_neg Bool.false_ne_true]
  refine ⟨h.tells, nofun, ?_, h.logged, h.ordered, h.block_le⟩
  intro e he
  exact h.hash_eq e (List.mem_append_left _ (by simpa using he))

theorem step (separate : r.keys.Separate) (h : Journaling r s executed) (op : Ledger.Op) :
    Journaling r (s.step r op) (executed ++ s.executes r op) := by
  have heffect := State.effect_step r s op
  generalize s.executes r op = new at *
  generalize s.accepts r op = accepted at *
  generalize s.step r op = next at *
  cases heffect with
  | nothing =>
    rw [List.append_nil]
    exact h
  | queued _ hvalid =>
    rw [List.append_nil]
    exact h.accept hvalid _
  | included _ hvalid => exact (h.accept hvalid _).sealBlock separate
  | sealed => exact h.sealBlock separate
  | funded account free =>
    rw [List.append_nil]
    exact h.fund separate account free
  | closed hopen =>
    rw [List.append_nil]
    exact h.close hopen

theorem run {h : Chronicle} (separate : r.keys.Separate)
    (hjournal : Journaling r h.state h.executed) (ops : List Ledger.Op) :
    Journaling r (h.run r ops).state (h.run r ops).executed := by
  induction ops generalizing h with
  | nil => exact hjournal
  | cons op ops ih => exact ih (h := h.step r op) (hjournal.step separate op)

end Journaling

/-- The log of a run tells what is stored, and what was executed. -/
structure Journal (r : Rules) (h : Chronicle) : Prop where
  /-- What is stored at the address of a namespace and key is nothing or a record, whose owner the log
  knows. -/
  owners : ∀ {ns key : Bytes} {address : Address}, r.keys.deriveAddress ns key = .ok address →
    ∃ x, Rules.record? h.state.best address = .ok x ∧
      x.map Record.owner = replay h.state.events ns key
  /-- The log knows of no record that has no address. -/
  addressed : ∀ {ns key : Bytes} {owner : AccountId}, replay h.state.events ns key = some owner →
    ∃ address, r.keys.deriveAddress ns key = .ok address
  /-- Where records are filed, nothing is stored that the log does not know of. -/
  only : ∀ {address : Address} {value : Bytes}, h.state.best.get? address = some value →
    r.keys.records.toList <+: address →
    ∃ ns key owner, r.keys.deriveAddress ns key = .ok address ∧
      replay h.state.events ns key = some owner
  /-- A record is created where none is, and updated or removed where one of the owner's is. -/
  fits : ∀ before x later, h.state.events = before ++ x :: later → x.event.Fits (replay before)
  /-- There is one event for each executed transaction, in the order of execution. -/
  logged : h.state.events.map (·.tx) = h.executed.map (·.extrinsic.hash)
  ordered : (h.state.events.map (·.block)).Pairwise (· ≤ ·)

theorem Journaling.journal {h : Chronicle} (hjournal : Journaling r h.state h.executed) :
    Journal r h := by
  obtain ⟨m, hholds, howners, hcoherent⟩ := hjournal.tells
  refine ⟨?_, ?_, ?_, hcoherent, ?_, hjournal.ordered⟩
  · intro ns key address haddress
    obtain ⟨hns, hkey, rfl⟩ := StorageKeys.deriveAddress_eq_ok_iff.1 haddress
    exact ⟨m ns key, hholds.record?_eq hns hkey, by rw [howners]; rfl⟩
  · intro ns key owner howner
    rw [howners] at howner
    obtain ⟨record, hrecord, -⟩ := Option.map_eq_some_iff.1 howner
    obtain ⟨hns, hkey, -⟩ := hholds.short hrecord
    exact ⟨_, StorageKeys.deriveAddress_of_short hns hkey⟩
  · intro address value hget hunder
    obtain ⟨ns, key, record, hrecord, rfl⟩ := hholds.only hget hunder
    obtain ⟨hns, hkey, -⟩ := hholds.short hrecord
    refine ⟨ns, key, record.owner, StorageKeys.deriveAddress_of_short hns hkey, ?_⟩
    rw [howners, Contents.owners, hrecord, Option.map_some]
  · rw [hjournal.logged]
    refine List.map_congr_left ?_
    intro e he
    exact hjournal.hash_eq e (List.mem_append_left _ he)

/-- What an operation logs: the transactions that it executes, in their order, with what came of each,
and with the number of the block they are in. -/
structure LogsItsBlock (r : Rules) (s : State) (op : Ledger.Op) : Prop where
  events : (s.step r op).events =
    s.events ++ (r.includeAll (s.step r op).number s.best (s.executes r op)).map Included.logged
  number : s.executes r op ≠ [] → (s.step r op).number = s.number + 1

theorem logsItsBlock (r : Rules) (s : State) (op : Ledger.Op) : LogsItsBlock r s op := by
  have heffect := State.effect_step r s op
  suffices (s.step r op).events = s.events ++
      (r.includeAll (s.step r op).number s.best (s.executes r op)).map Included.logged ∧
      (s.executes r op ≠ [] → (s.step r op).number = s.number + 1) from ⟨this.1, this.2⟩
  generalize s.executes r op = new at *
  generalize s.accepts r op = accepted at *
  generalize s.step r op = next at *
  cases heffect with
  | nothing | queued | funded => simp [Rules.includeAll, State.fund]
  | included =>
    rw [State.sealBlock_events, State.sealBlock_number, Rules.includeAll_logged]
    simp
  | sealed =>
    rw [State.sealBlock_events, State.sealBlock_number, Rules.includeAll_logged]
    simp
  | closed hopen =>
    unfold State.close
    simp [hopen, Rules.includeAll]

/-- **The log is a faithful journal.** Whatever is done with a ledger, replaying its log gives the
owners of all that is stored, and each block adds to it what came of its transactions. -/
theorem run_journal (c : Ledger.Config) (separate : (StorageKeys.ofLayout c.layout).Separate)
    (ops : List Ledger.Op) :
    let r := Rules.ofConfig c
    let h := (Chronicle.initial r).run r ops
    h.state = (State.initial r).run r ops ∧ Journal r h ∧
      ∀ before op later, ops = before ++ op :: later →
        LogsItsBlock r ((State.initial r).run r before) op := by
  intro r h
  have hinitial : Journaling r (Chronicle.initial r).state (Chronicle.initial r).executed :=
    .initial r
  refine ⟨Chronicle.run_state r _ ops, (hinitial.run separate ops).journal, ?_⟩
  intro before op later _
  exact logsItsBlock r _ op

theorem run_journal_outOfOrder :
    let r := Rules.ofConfig {}
    let h := (Chronicle.initial r).run r (Ledger.Op.outOfOrder ++ [.close])
    h.state = (State.initial r).run r (Ledger.Op.outOfOrder ++ [.close]) ∧ Journal r h ∧
      ∀ before op later, Ledger.Op.outOfOrder ++ [.close] = before ++ op :: later →
        LogsItsBlock r ((State.initial r).run r before) op := by
  have separate : (StorageKeys.ofLayout {}).Separate := by decide +kernel
  exact run_journal {} separate _

end Store

end MetaLedger
