import Mathlib.Logic.ExistsUnique
import MetaLedger.Proofs.Ledger.Run
import MetaLedger.Proofs.Store.Holds

/-!
# Whatever is stored is an account or a record

Entries are bytes under bytes, written by counting, by calls and by funding, and each reader takes them
for what it looks for. That is safe because every entry is the state of an account or a record, at its
own address (`Filed`): each write keeps this up, and since the two kinds of addresses differ, no reader
finds what was written for another. So in every state of a run no stored value fails to be read, neither
now nor at the blocks whose entries are kept, and no call is refused for that reason
(`State.InOrder.run`).
-/

namespace MetaLedger.Store

open Ledger (Rules Entries State PoolEntry)

variable {r : Rules} {e : Entries} {m : Contents}

/-! ## Entries -/

/-- The entries are records and accounts, and nothing else. -/
structure Filed (r : Rules) (e : Entries) (m : Contents) : Prop where
  holds : Holds r e m
  placed : ∀ {address : Address} {value : Bytes}, e.get? address = some value →
    r.keys.records.toList <+: address ∨ ∃ a, address = r.keys.accountAddress a

namespace Filed

theorem empty (r : Rules) : Filed r .empty .empty := ⟨Holds.empty r, fun h => nomatch h⟩

theorem insertAccount (separate : r.keys.Separate) (h : Filed r e m) (a : AccountId)
    (info : AccountInfo) : Filed r (e.insert (r.keys.accountAddress a) info.encode) m where
  holds := h.holds.insertAccount separate a info
  placed {address value} hget := by
    by_cases here : address = r.keys.accountAddress a
    · exact .inr ⟨a, here⟩
    · rw [Entries.get?_insert_of_ne here] at hget
      exact h.placed hget

theorem execute (separate : r.keys.Separate) (h : Filed r e m) (tx : PoolEntry)
    (hshort : tx.call.Short) :
    Filed r (r.execute e tx).1 (m.call tx.signer tx.call).1 where
  holds := (h.holds.execute separate tx hshort).1
  placed {address value} hget := by
    have hcounted : Filed r (r.bumpNonce tx.signer e) m := h.insertAccount separate tx.signer _
    cases hresult : r.dispatch tx.signer tx.call (r.bumpNonce tx.signer e) with
    | error reason =>
      rw [Rules.execute_of_error hresult] at hget
      exact hcounted.placed hget
    | ok result =>
      rw [Rules.execute_of_ok hresult] at hget
      by_cases here : address = r.keys.recordAddress tx.call.ns tx.call.key
      · subst here
        exact .inl (StorageKeys.records_prefix_recordAddress _ _)
      · rw [Rules.dispatch_get?_of_ne hresult here] at hget
        exact hcounted.placed hget

end Filed

/-! ## What an entry is -/

/-- The state of one account, at its address. -/
structure AccountEntry (r : Rules) (address : Address) (value : Bytes) : Prop where
  owner : ∃! a, address = r.keys.accountAddress a
  state : ∃ info : AccountInfo, value = info.encode ∧ AccountInfo.decode? value = some info
  no_record : ∀ ns key, r.keys.deriveAddress ns key ≠ .ok address

/-- The record of one namespace and key, at its address. -/
structure RecordEntry (r : Rules) (address : Address) (value : Bytes) : Prop where
  name : ∃! name : Bytes × Bytes, r.keys.deriveAddress name.1 name.2 = .ok address
  record : ∃ record : Record, value = record.encode ∧ Record.decode value = .ok record
  no_account : ∀ a, address ≠ r.keys.accountAddress a

/-- Each entry is one account's state or one record, and never both. -/
def WellFiled (r : Rules) (e : Entries) : Prop :=
  ∀ address value, e.get? address = some value →
    AccountEntry r address value ∨ RecordEntry r address value

namespace Filed

variable {address : Address} {value : Bytes}

theorem accountEntry (separate : r.keys.Separate) (h : Filed r e m) {a : AccountId}
    (hget : e.get? (r.keys.accountAddress a) = some value) :
    AccountEntry r (r.keys.accountAddress a) value := by
  refine ⟨⟨a, rfl, ?_⟩, ?_, ?_⟩
  · intro b hb
    exact (StorageKeys.accountAddress_inj hb).symm
  · rw [h.holds.accounts] at hget
    obtain ⟨info, -, rfl⟩ := Option.map_eq_some_iff.1 hget
    exact ⟨info, rfl, AccountInfo.decode?_encode info⟩
  · intro ns key hderived
    exact separate.recordAddress_ne ns key a (StorageKeys.deriveAddress_eq_recordAddress hderived).symm

theorem recordEntry (separate : r.keys.Separate) (h : Filed r e m)
    (hget : e.get? address = some value) (hunder : r.keys.records.toList <+: address) :
    RecordEntry r address value := by
  obtain ⟨ns, key, record, hrecord, rfl⟩ := h.holds.only hget hunder
  obtain ⟨hns, hkey, hdata⟩ := h.holds.short hrecord
  rw [h.holds.records hns hkey, hrecord, Option.map_some, Option.some_inj] at hget
  subst hget
  refine ⟨⟨(ns, key), StorageKeys.deriveAddress_of_short hns hkey, ?_⟩,
    ⟨record, rfl, Record.decode_encode hdata⟩, ?_⟩
  · rintro ⟨n, k⟩ hderived
    obtain ⟨hn, hk, heq⟩ := StorageKeys.deriveAddress_eq_ok_iff.1 hderived
    obtain ⟨rfl, rfl⟩ := StorageKeys.recordAddress_inj hns hn hkey hk heq
    rfl
  · intro a
    exact separate.recordAddress_ne ns key a

theorem wellFiled (separate : r.keys.Separate) (h : Filed r e m) : WellFiled r e := by
  intro address value hget
  rcases h.placed hget with hunder | ⟨a, rfl⟩
  · exact .inr (h.recordEntry separate hget hunder)
  · exact .inl (h.accountEntry separate hget)

/-- An account whose state is not read has none. -/
theorem get?_of_accountInfo?_none (h : Filed r e m) {a : AccountId}
    (hnone : r.accountInfo? e a = none) : e.get? (r.keys.accountAddress a) = none := by
  rw [h.holds.accounts, hnone]
  rfl

end Filed

/-! ## Calls -/

/-- A call that finds its record is refused for one of the module's own reasons. -/
theorem apply_ne_other {signer : AccountId} {c : Call} {address : Address}
    {existing : Option Record} (name : String) :
    Rules.apply signer c address existing e ≠ .error (.other name) := by
  intro h
  unfold Rules.apply at h
  split at h
  · cases h
  · cases h
  · cases h
  · split at h <;> cases h
  · cases h
  · split at h <;> cases h

theorem Filed.execute_event (separate : r.keys.Separate) (h : Filed r e m) (tx : PoolEntry)
    (hshort : tx.call.Short) (name : String) :
    (r.execute e tx).2.event ≠ .failed (.other name) := by
  have hcounted := h.holds.bumpNonce separate tx.signer
  have hdispatch := hcounted.dispatch_eq tx.signer hshort
  cases hresult : r.dispatch tx.signer tx.call (r.bumpNonce tx.signer e) with
  | error reason =>
    rw [Rules.execute_of_error hresult]
    rintro ⟨⟩
    exact apply_ne_other name (hdispatch.symm.trans hresult)
  | ok result =>
    rw [Rules.execute_of_ok hresult]
    rcases Rules.dispatch_cases hresult with ⟨_, _, _, _, heq⟩ | ⟨_, _, _, _, _, heq⟩ |
      ⟨_, _, _, _, _, _, heq⟩
    · rw [heq]; nofun
    · rw [heq]; nofun
    · rw [heq]; nofun

theorem Filed.executeAll (separate : r.keys.Separate) (h : Filed r e m) {txs : List PoolEntry}
    (hshort : ∀ tx ∈ txs, tx.call.Short) :
    (∃ m', Filed r (r.executeAll e txs).1 m') ∧
      ∀ done ∈ (r.executeAll e txs).2, ∀ name, done.event ≠ .failed (.other name) := by
  induction txs generalizing e m with
  | nil => exact ⟨⟨m, h⟩, fun _ hdone => nomatch hdone⟩
  | cons tx rest ih =>
    have htx := hshort tx List.mem_cons_self
    obtain ⟨hlast, hrest⟩ :=
      ih (h.execute separate tx htx) fun other hother => hshort other (List.mem_cons_of_mem _ hother)
    refine ⟨hlast, ?_⟩
    intro done hdone
    rcases List.mem_cons.1 hdone with rfl | hdone
    · exact h.execute_event separate tx htx
    · exact hrest done hdone

/-! ## Readers -/

/-- The error says that something stored could not be read. -/
def Error.Undecodable (e : Error) : Prop :=
  e.step? = some .decode ∨ ∃ failure, e.cause = .encoding failure

section Readers

variable (h : Holds r e m)

include h

/-- At the address of a record, a reader finds data or nothing. -/
theorem Holds.dataOfReply_error {ns key : Bytes} (hns : ns.length < UInt32.size)
    (hkey : key.length < UInt32.size) {op : Operation} {failure : Error}
    (hread : dataOfReply op (.ok (e.get? (r.keys.recordAddress ns key))) = .error failure) :
    failure = ⟨.notFound, some (op, .queryState)⟩ := by
  rw [h.records hns hkey] at hread
  unfold dataOfReply at hread
  cases hrecord : m ns key with
  | none =>
    rw [hrecord] at hread
    cases hread
    rfl
  | some record =>
    simp only [hrecord, Option.map_some, Record.decode_encode (h.short hrecord).2.2] at hread
    cases hread

/-- At the address of an account, a reader finds a nonce or nothing. -/
theorem Holds.nonceOfReply_error {a : AccountId} {failure : Error}
    (hread : nonceOfReply (.ok (e.get? (r.keys.accountAddress a))) = .error failure) :
    failure = ⟨.notFound, none⟩ := by
  rw [h.accounts] at hread
  unfold nonceOfReply at hread
  cases hinfo : r.accountInfo? e a with
  | none =>
    rw [hinfo] at hread
    cases hread
    rfl
  | some info =>
    simp only [hinfo, Option.map_some, AccountInfo.decodeNonce_encode] at hread
    cases hread

end Readers

/-! ## Runs -/

/-- What is stored at the head and at the blocks before it is filed, what waits can be filed, and no
call has been refused because something stored could not be read. -/
structure InOrder (r : Rules) (s : State) : Prop where
  best : ∃ m, Filed r s.best m
  past : ∀ b ∈ s.past, ∃ m, Filed r b.2 m
  pool : ∀ e ∈ s.ready ++ s.future, e.call.Short
  events : ∀ x ∈ s.events, ∀ name, x.event ≠ .failed (.other name)

namespace InOrder

variable {s : State}

theorem initial (r : Rules) : InOrder r (State.initial r) :=
  ⟨⟨_, Filed.empty r⟩, nofun, nofun, nofun⟩

theorem accept (h : InOrder r s) {x : Extrinsic} {call : Call} {placement : Ledger.Placement}
    (hvalid : s.Valid r x call placement) (watched : Bool) :
    InOrder r (s.accept r x watched call placement) where
  best := by
    rw [State.accept_best]
    exact h.best
  past := by
    rw [State.accept_past]
    exact h.past
  pool := by
    intro e he
    have hperm := State.accept_perm r x watched call placement s
    rcases List.mem_append.1 (hperm.mem_iff.1 he) with he | he
    · exact h.pool e he
    · obtain ⟨_, _, hshort, _⟩ := Rules.call?_eq_some_iff.1 hvalid.call_eq
      rw [List.mem_singleton.1 he]
      exact hshort
  events := by
    rw [State.accept_events]
    exact h.events

theorem sealBlock (separate : r.keys.Separate) (h : InOrder r s) : InOrder r (s.sealBlock r) := by
  obtain ⟨m, hbest⟩ := h.best
  obtain ⟨hnext, hexecuted⟩ :=
    hbest.executeAll separate fun tx htx => h.pool tx (List.mem_append_left _ htx)
  refine ⟨?_, ?_, ?_, ?_⟩
  · rw [State.sealBlock_best]
    exact hnext
  · intro b hb
    rw [State.sealBlock_past] at hb
    rcases List.mem_cons.1 (List.mem_of_mem_take hb) with rfl | hb
    · exact h.best
    · exact h.past b hb
  · intro e he
    exact h.pool e (List.mem_append_right _ ((State.sealBlock_perm r s).mem_iff.1 he))
  · intro x hx
    rw [State.sealBlock_events] at hx
    rcases List.mem_append.1 hx with hx | hx
    · exact h.events x hx
    · obtain ⟨done, hdone, rfl⟩ := List.mem_map.1 hx
      exact hexecuted done hdone

theorem fund (separate : r.keys.Separate) (h : InOrder r s) (account : AccountId) (free : Amount) :
    InOrder r (s.fund r account free) := by
  obtain ⟨m, hbest⟩ := h.best
  exact ⟨⟨m, hbest.insertAccount separate account _⟩, h.past, h.pool, h.events⟩

theorem close (h : InOrder r s) : InOrder r s.close := by
  unfold State.close
  split
  · exact h
  · exact ⟨h.best, h.past, nofun, h.events⟩

theorem step (separate : r.keys.Separate) (h : InOrder r s) (op : Ledger.Op) :
    InOrder r (s.step r op) :=
  State.preserved_step (fun _ _ watched _ _ _ hvalid h => h.accept hvalid watched)
    (fun _ _ h => h.sealBlock separate) (fun _ account free h => h.fund separate account free)
    (fun _ h => h.close) h op

theorem run (separate : r.keys.Separate) (h : InOrder r s) (ops : List Ledger.Op) :
    InOrder r (s.run r ops) :=
  State.preserved_run (fun _ op h => h.step separate op) h ops

end InOrder

end MetaLedger.Store
