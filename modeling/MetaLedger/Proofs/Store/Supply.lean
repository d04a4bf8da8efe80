import MetaLedger.Proofs.Ledger.Effects
import MetaLedger.Proofs.Store.Holds

/-!
# Data come from calls

A record's data are those that a call brought for its namespace and key: a block puts them in as a whole
or leaves the record alone, and nothing else writes records. So whatever is true of all data that calls
bring, from where and when ever, is true of all data that are stored (`Stocked.step`).
-/

namespace MetaLedger

/-- Which data may stand under a namespace and key. -/
abbrev Store.Admission := Bytes → Bytes → Bytes → Prop

/-- What the call brings, if it brings data, may stand under its namespace and key. -/
def Call.Brings (may : Store.Admission) : Call → Prop
  | set ns key data | update ns key data => may ns key data
  | delete _ _ => True

theorem Call.Brings.mono {may might : Store.Admission} {call : Call} (h : call.Brings may)
    (hmono : ∀ ns key data, may ns key data → might ns key data) : call.Brings might := by
  cases call with
  | set ns key data | update ns key data => exact hmono _ _ _ h
  | delete ns key => trivial

namespace Store

open Ledger (Rules Entries State PoolEntry Op)

variable {r : Rules} {e : Entries} {m : Contents} {may might : Admission}

/-! ## Records -/

/-- All data may stand where they are. -/
def Contents.Within (may : Admission) (m : Contents) : Prop :=
  ∀ ns key record, m ns key = some record → may ns key record.data

theorem Contents.Within.put (h : m.Within may) {ns key : Bytes} {record : Option Record}
    (hrecord : ∀ x, record = some x → may ns key x.data) : (m.put ns key record).Within may := by
  intro n k x hx
  by_cases same : n = ns ∧ k = key
  · obtain ⟨rfl, rfl⟩ := same
    rw [put_self] at hx
    exact hrecord x hx
  · rw [put_of_ne same] at hx
    exact h n k x hx

theorem Contents.Within.call (h : m.Within may) (signer : AccountId) {c : Call}
    (hbrings : c.Brings may) : (m.call signer c).1.Within may := by
  cases c with
  | set ns key data =>
    simp only [Contents.call]
    cases m ns key with
    | none =>
      refine h.put ?_
      rintro x ⟨⟩
      exact hbrings
    | some record => exact h
  | delete ns key =>
    simp only [Contents.call]
    cases m ns key with
    | none => exact h
    | some record =>
      dsimp only
      split
      · refine h.put ?_
        rintro x ⟨⟩
      · exact h
  | update ns key data =>
    simp only [Contents.call]
    cases m ns key with
    | none => exact h
    | some record =>
      dsimp only
      split
      · refine h.put ?_
        rintro x ⟨⟩
        exact hbrings
      · exact h

/-- Executing transactions leaves nothing but data that were there and data that they bring. -/
theorem Holds.executeAll_within (separate : r.keys.Separate) (h : Holds r e m)
    (hwithin : m.Within may) {txs : List PoolEntry}
    (htxs : ∀ tx ∈ txs, tx.call.Short ∧ tx.call.Brings may) :
    ∃ m', Holds r (r.executeAll e txs).1 m' ∧ m'.Within may := by
  induction txs generalizing e m with
  | nil => exact ⟨m, h, hwithin⟩
  | cons tx rest ih =>
    obtain ⟨hshort, hbrings⟩ := htxs tx List.mem_cons_self
    refine ih (h.execute separate tx hshort).1 (hwithin.call tx.signer hbrings) ?_
    intro other hother
    exact htxs other (List.mem_cons_of_mem _ hother)

/-! ## Ledgers -/

/-- All data that are stored may stand where they are, and what waits brings no others. -/
structure Stocked (r : Rules) (may : Admission) (s : State) : Prop where
  records : ∃ m, Holds r s.best m ∧ m.Within may
  pool : ∀ e ∈ s.ready ++ s.future, e.call.Short ∧ e.call.Brings may

namespace Stocked

variable {s : State}

theorem initial (r : Rules) (may : Admission) : Stocked r may (State.initial r) :=
  ⟨⟨_, Holds.empty r, nofun⟩, nofun⟩

theorem mono (h : Stocked r may s) (hmono : ∀ ns key data, may ns key data → might ns key data) :
    Stocked r might s := by
  obtain ⟨m, hholds, hwithin⟩ := h.records
  refine ⟨⟨m, hholds, ?_⟩, ?_⟩
  · intro ns key record hrecord
    exact hmono _ _ _ (hwithin ns key record hrecord)
  · intro e he
    exact ⟨(h.pool e he).1, (h.pool e he).2.mono hmono⟩

theorem accept (h : Stocked r may s) {x : Extrinsic} {call : Call} {placement : Ledger.Placement}
    (hvalid : s.Valid r x call placement) (hbrings : call.Brings may) (watched : Bool) :
    Stocked r may (s.accept r x watched call placement) := by
  refine ⟨?_, ?_⟩
  · rw [State.accept_best]
    exact h.records
  · intro e he
    have hperm := State.accept_perm r x watched call placement s
    rcases List.mem_append.1 (hperm.mem_iff.1 he) with he | he
    · exact h.pool e he
    · obtain ⟨_, _, hshort, _⟩ := Rules.call?_eq_some_iff.1 hvalid.call_eq
      rw [List.mem_singleton.1 he]
      exact ⟨hshort, hbrings⟩

theorem sealBlock (separate : r.keys.Separate) (h : Stocked r may s) :
    Stocked r may (s.sealBlock r) := by
  obtain ⟨m, hholds, hwithin⟩ := h.records
  refine ⟨?_, ?_⟩
  · rw [State.sealBlock_best]
    refine hholds.executeAll_within separate hwithin ?_
    intro tx htx
    exact h.pool tx (List.mem_append_left _ htx)
  · intro e he
    exact h.pool e (List.mem_append_right _ ((State.sealBlock_perm r s).mem_iff.1 he))

theorem fund (separate : r.keys.Separate) (h : Stocked r may s) (account : AccountId)
    (free : Amount) : Stocked r may (s.fund r account free) := by
  obtain ⟨m, hholds, hwithin⟩ := h.records
  exact ⟨⟨m, hholds.insertAccount separate account _, hwithin⟩, h.pool⟩

theorem close (h : Stocked r may s) : Stocked r may s.close := by
  unfold State.close
  split
  · exact h
  · exact ⟨h.records, nofun⟩

/-- A submission brings what its call does. Other operations bring nothing. -/
theorem step (separate : r.keys.Separate) (h : Stocked r may s) {op : Op}
    (hop : ∀ x watched call, op = .submit x watched → r.call? x.call = some call → call.Brings may) :
    Stocked r may (s.step r op) := by
  have heffect := State.effect_step r s op
  generalize s.executes r op = executed at *
  generalize s.accepts r op = accepted at *
  generalize s.step r op = next at *
  cases heffect with
  | nothing => exact h
  | queued _ hvalid => exact h.accept hvalid (hop _ _ _ rfl hvalid.call_eq) _
  | included _ hvalid => exact (h.accept hvalid (hop _ _ _ rfl hvalid.call_eq) _).sealBlock separate
  | sealed => exact h.sealBlock separate
  | funded account free => exact h.fund separate account free
  | closed => exact h.close

/-- What is found at the address of a namespace and key is a record, and its data may stand there. -/
theorem record (h : Stocked r may s) {ns key : Bytes} {address : Address} {value : Bytes}
    (haddress : r.keys.deriveAddress ns key = .ok address) (hvalue : s.best.get? address = some value) :
    ∃ record, Record.decode value = .ok record ∧ may ns key record.data := by
  obtain ⟨m, hholds, hwithin⟩ := h.records
  obtain ⟨hns, hkey, rfl⟩ := StorageKeys.deriveAddress_eq_ok_iff.1 haddress
  rw [hholds.records hns hkey] at hvalue
  obtain ⟨record, hrecord, rfl⟩ := Option.map_eq_some_iff.1 hvalue
  exact ⟨record, Record.decode_encode (hholds.short hrecord).2.2, hwithin ns key record hrecord⟩

end Stocked

end Store

end MetaLedger
