import MetaLedger.Proofs.Store.Listing

/-!
# A store does what its map says

Each command of an attached store, at a ledger that serves a map, runs through to an end: its result is
the answer of the map, and the ledger afterwards serves the changed map (`Serves.command`). The commands
are taken one by one. A `set` and an `update` read first, and what they have read decides the call.
-/

namespace MetaLedger.Store

open Ledger (Rules State)
open Workbench (Completes)

/-- A command runs through, and does what it is for. -/
def Fulfils (r : Rules) (s : State) (o : Opened) (m : Contents) (command : Command) : Prop :=
  ∃ moves t delivered result, moves ≤ 8 + s.best.size ∧
    Completes r s (command.start ⟨o.signer, o.config, some o.session⟩) moves t delivered result ∧
    m.Answers o.signer.account o.config.submission t.head command delivered result ∧
    Serves r t (m.after o.signer.account command)

section Reading

variable {r : Rules} {s : State} {m : Contents} {ns key : Bytes}

theorem dataOfReply_some (op : Operation) {record : Record}
    (hdata : record.data.length < UInt32.size) :
    dataOfReply op (.ok (some record.encode)) = .ok record.data := by
  unfold dataOfReply
  simp only [Record.decode_encode hdata]

theorem existsInReply_some (op : Operation) {record : Record}
    (hdata : record.data.length < UInt32.size) :
    existsInReply op (.ok (some record.encode)) = .ok true := by
  unfold existsInReply
  rw [dataOfReply_some op hdata]

theorem Serves.serve_record (h : Serves r s m) (hns : ns.length < UInt32.size)
    (hkey : key.length < UInt32.size) :
    s.serve r (.storage (r.keys.recordAddress ns key) none) =
      (.reply (.ok ((m ns key).map Record.encode)), s) := by
  rw [serve_storage h.quiet.isOpen, h.holds.records hns hkey]

end Reading

/-! ## Setting off -/

section Start

variable {o : Opened} {ns key : Bytes} (hns : ns.length < UInt32.size)

include hns

theorem Opened.address_of_short (op : Operation) (hkey : key.length < UInt32.size) :
    o.address op ns key = .ok (o.session.keys.recordAddress ns key) := by
  unfold address
  rw [StorageKeys.deriveAddress_of_short hns hkey]

theorem start_get (hkey : key.length < UInt32.size) :
    Command.start ⟨o.signer, o.config, some o.session⟩ (.get ns key) =
      .running (.get o (o.session.keys.recordAddress ns key)) := by
  show Progress.andThen (o.address .get ns key) _ = _
  rw [Opened.address_of_short hns .get hkey]
  rfl

theorem start_set (hkey : key.length < UInt32.size) (data : Bytes) :
    Command.start ⟨o.signer, o.config, some o.session⟩ (.set ns key data) =
      .running (.set o ns key data (o.session.keys.recordAddress ns key)) := by
  show Progress.andThen (o.address .set ns key) _ = _
  rw [Opened.address_of_short hns .set hkey]
  rfl

theorem start_delete (hkey : key.length < UInt32.size) :
    Command.start ⟨o.signer, o.config, some o.session⟩ (.delete ns key) =
      .running (.nonce o .delete (.delete ns key)) := by
  show Progress.andThen (o.address .delete ns key) _ = _
  rw [Opened.address_of_short hns .delete hkey]
  rfl

theorem start_update (hkey : key.length < UInt32.size) (transform : Transform) :
    Command.start ⟨o.signer, o.config, some o.session⟩ (.update ns key transform) =
      .running (.update o ns key transform (o.session.keys.recordAddress ns key)) := by
  show Progress.andThen (o.address .update ns key) _ = _
  rw [Opened.address_of_short hns .update hkey]
  rfl

theorem start_listKeys :
    Command.start ⟨o.signer, o.config, some o.session⟩ (.listKeys ns) =
      .running (.page o (o.session.keys.namespaceAddress ns) none []) := by
  show Progress.andThen (o.namespaceAddress ns) _ = _
  unfold Opened.namespaceAddress
  rw [StorageKeys.namespacePrefix_of_short hns]
  rfl

end Start

/-! ## The commands -/

section Command

variable {c : Ledger.Config} {o : Opened} {s : State} {m : Contents} {ns key : Bytes}
variable (att : Attached c o)

include att in
theorem Attached.keys : o.session.keys = (Rules.ofConfig c).keys := by
  rw [att.session]
  rfl

include att in
theorem Serves.get (h : Serves (Rules.ofConfig c) s m) (hns : ns.length < UInt32.size)
    (hkey : key.length < UInt32.size) : Fulfils (Rules.ofConfig c) s o m (.get ns key) := by
  have hserve := h.serve_record hns hkey
  rw [← att.keys] at hserve
  unfold Fulfils
  rw [start_get hns hkey]
  cases hm : m ns key with
  | none =>
    rw [hm] at hserve
    refine ⟨1, s, [], failAt .get .queryState .notFound, by omega, .reply hserve .ended, ?_, h⟩
    exact ⟨rfl, by rw [hm]⟩
  | some record =>
    rw [hm] at hserve
    refine ⟨1, s, [], .ok (.value record.data), by omega, .reply hserve ?_, ⟨rfl, by rw [hm]⟩, h⟩
    have hdata := dataOfReply_some .get (h.holds.short hm).2.2
    simp only [Task.resume, Option.map_some, hdata, Progress.andThen]
    exact .ended

variable (fit : Fitting c)

include fit att in
/-- A write that the owner of a record is allowed, and anyone where there is none. -/
theorem Serves.change (h : Serves (Rules.ofConfig c) s m) (op : Operation) {call : Call}
    (hshort : call.Short) {record : Option Record}
    (hcall : m.call o.signer.account call =
      (m.change o.signer.account ns key record, m.permission o.signer.account ns key)) :
    ∃ moves t, moves ≤ 3 ∧
      Completes (Rules.ofConfig c) s (.running (.nonce o op call)) moves t []
        (m.verdict o.signer.account o.config.submission op ns key t.head) ∧
      Serves (Rules.ofConfig c) t (m.change o.signer.account ns key record) := by
  obtain ⟨moves, t, tx, number, hmoves, hcompletes, hnext⟩ := h.write fit att op hshort
  rw [hcall] at hcompletes hnext
  rw [told_permission] at hcompletes
  exact ⟨moves, t, hmoves, hcompletes, hnext⟩

include fit att in
theorem Serves.delete (h : Serves (Rules.ofConfig c) s m) (hns : ns.length < UInt32.size)
    (hkey : key.length < UInt32.size) : Fulfils (Rules.ofConfig c) s o m (.delete ns key) := by
  have hshort : (Call.delete ns key).Short := ⟨hns, hkey⟩
  unfold Fulfils
  rw [start_delete hns hkey]
  cases hm : m ns key with
  | none =>
    obtain ⟨moves, t, tx, number, hmoves, hcompletes, hnext⟩ := h.write fit att .delete hshort
    rw [Contents.call_delete_none hm] at hcompletes hnext
    rw [show (Call.delete ns key).kind = .delete from rfl, told_metadataNotFound hm] at hcompletes
    exact ⟨moves, t, [], _, by omega, hcompletes, ⟨rfl, rfl⟩, hnext⟩
  | some record =>
    obtain ⟨moves, t, hmoves, hcompletes, hnext⟩ :=
      h.change att fit .delete hshort (Contents.call_delete hm)
    exact ⟨moves, t, [], _, by omega, hcompletes, ⟨rfl, rfl⟩, hnext⟩

include fit att in
/-- What was read decides between inserting and replacing. -/
theorem Serves.set (h : Serves (Rules.ofConfig c) s m) {data : Bytes} (hns : ns.length < UInt32.size)
    (hkey : key.length < UInt32.size) (hdata : data.length < UInt32.size) :
    Fulfils (Rules.ofConfig c) s o m (.set ns key data) := by
  have hserve := h.serve_record hns hkey
  rw [← att.keys] at hserve
  unfold Fulfils
  rw [start_set hns hkey]
  cases hm : m ns key with
  | none =>
    have hshort : (Call.set ns key data).Short := ⟨hns, hkey, hdata⟩
    obtain ⟨moves, t, hmoves, hcompletes, hnext⟩ :=
      h.change att fit .set hshort (Contents.call_set hm data)
    rw [hm] at hserve
    exact ⟨moves + 1, t, [], _, by omega, .reply hserve hcompletes, ⟨rfl, rfl⟩, hnext⟩
  | some record =>
    have hshort : (Call.update ns key data).Short := ⟨hns, hkey, hdata⟩
    obtain ⟨moves, t, hmoves, hcompletes, hnext⟩ :=
      h.change att fit .set hshort (Contents.call_update hm data)
    rw [hm] at hserve
    refine ⟨moves + 1, t, [], _, by omega, .reply hserve ?_, ⟨rfl, rfl⟩, hnext⟩
    have hthere := existsInReply_some .set (h.holds.short hm).2.2
    simp only [Task.resume, Option.map_some, hthere, Progress.andThen]
    exact hcompletes

include fit att in
theorem Serves.update (h : Serves (Rules.ofConfig c) s m) {transform : Transform}
    (hshort : (Command.update ns key transform).Short m) :
    Fulfils (Rules.ofConfig c) s o m (.update ns key transform) := by
  obtain ⟨hns, hkey, hresult⟩ := hshort
  have hserve := h.serve_record hns hkey
  rw [← att.keys] at hserve
  unfold Fulfils
  rw [start_update hns hkey]
  cases hm : m ns key with
  | none =>
    rw [hm] at hserve
    refine ⟨1, s, [], failAt .update .queryState .notFound, by omega, .reply hserve .ended, ?_, ?_⟩
    · exact ⟨rfl, by rw [hm]⟩
    · simp only [Contents.after, hm]
      exact h
  | some record =>
    rw [hm] at hserve
    have hread := dataOfReply_some .update (h.holds.short hm).2.2
    cases htransform : transform record.data with
    | error e =>
      refine ⟨1, s, [], .error (e.during .update .transform), by omega, .reply hserve ?_, ?_, ?_⟩
      · simp only [Task.resume, Option.map_some, hread, htransform, Progress.andThen]
        exact .ended
      · exact ⟨rfl, by simp only [hm, htransform]⟩
      · simp only [Contents.after, hm, htransform]
        exact h
    | ok data =>
      have hshort : (Call.update ns key data).Short :=
        ⟨hns, hkey, hresult record data hm htransform⟩
      obtain ⟨moves, t, hmoves, hcompletes, hnext⟩ :=
        h.change att fit .update hshort (Contents.call_update hm data)
      refine ⟨moves + 1, t, [], m.verdict o.signer.account o.config.submission .update ns key t.head,
        by omega, .reply hserve ?_, ?_, ?_⟩
      · simp only [Task.resume, Option.map_some, hread, htransform, Progress.andThen]
        exact hcompletes
      · exact ⟨rfl, by simp only [hm, htransform]⟩
      · simp only [Contents.after, hm, htransform]
        exact hnext

include att in
theorem Serves.listKeys (h : Serves (Rules.ofConfig c) s m) (hns : ns.length < UInt32.size) :
    Fulfils (Rules.ofConfig c) s o m (.listKeys ns) := by
  obtain ⟨moves, keys, hmoves, hcompletes, hmem, hordered⟩ := h.list att.pageSize hns
  rw [← att.keys] at hcompletes
  unfold Fulfils
  rw [start_listKeys hns]
  exact ⟨moves, s, keys, .ok .done, by omega, hcompletes, ⟨hmem, hordered, rfl⟩, h⟩

include fit att in
/-- **Every command does what the map says.** -/
theorem Serves.command (h : Serves (Rules.ofConfig c) s m) {command : Command}
    (hshort : command.Short m) : Fulfils (Rules.ofConfig c) s o m command := by
  cases command with
  | get ns key => exact h.get att hshort.1 hshort.2
  | set ns key data => exact h.set att fit hshort.1 hshort.2.1 hshort.2.2
  | delete ns key => exact h.delete att fit hshort.1 hshort.2
  | update ns key transform => exact h.update att fit hshort
  | listKeys ns => exact h.listKeys att hshort

end Command

end MetaLedger.Store
