import MetaLedger.Proofs.Filing

/-!
# Addresses name one thing each, and stored values are read back

An address begins with the 32 digest bytes of its pallet and item, so records and accounts of a
layout whose two digests differ never meet (`Separate`). Where the digests are the same, no record meets
an account either, unless two inputs have one digest (`collision_of_recordAddress_eq`); so what only asks
that they do not meet is stated for any such layout (`Disjoint`). Behind the digests the parts of a record's
address stand with their lengths, which tells namespace and key apart whatever they hold. All this is
so under any digests, and stated here for those of ledgers.
-/

namespace MetaLedger

/-! ## Stored values -/

theorem AccountId.codec_readsBack : AccountId.codec.ReadsBack :=
  ((Scale.Codec.fixed_readsBack 32).field _).iso fun _ => rfl

theorem Record.codec_readsBack : Record.codec.ReadsBack :=
  ((Scale.Codec.bytes_readsBack.field _).pair (AccountId.codec_readsBack.field _)).iso fun _ => rfl

open Scale.Codec in
theorem AccountInfo.codec_readsBack : AccountInfo.codec.ReadsBack := by
  refine ReadsBack.iso ?_ fun _ => rfl
  refine word_readsBack.pair (word_readsBack.pair (word_readsBack.pair (word_readsBack.pair ?_)))
  exact wide_readsBack.pair (wide_readsBack.pair (wide_readsBack.pair wide_readsBack))

/-- A record whose data can be written is read back, and fills its stored value. -/
theorem Record.decode_encode {r : Record} (h : r.data.length < UInt32.size) :
    Record.decode r.encode = .ok r := by
  have hread : codec.read (codec.encode r ++ []) = .ok (r, []) :=
    codec_readsBack r [] ⟨h, trivial⟩
  rw [List.append_nil] at hread
  simp only [Record.decode, Record.encode, hread, List.isEmpty_nil, if_true]

theorem AccountInfo.fits (a : AccountInfo) : codec.Fits a :=
  ⟨trivial, trivial, trivial, trivial, trivial, trivial, trivial, trivial⟩

theorem AccountInfo.decode?_encode (a : AccountInfo) : AccountInfo.decode? a.encode = some a := by
  have hread := codec_readsBack a [] a.fits
  rw [List.append_nil] at hread
  simp only [AccountInfo.decode?, AccountInfo.encode, hread]

/-- The nonce stands in front, so it is read without the fields behind it. -/
theorem AccountInfo.decodeNonce_encode (a : AccountInfo) :
    AccountInfo.decodeNonce a.encode = .ok a.nonce := by
  obtain ⟨rest, hrest⟩ : ∃ rest, a.encode = Scale.Codec.word.encode a.nonce ++ rest := ⟨_, rfl⟩
  simp only [AccountInfo.decodeNonce, hrest, Scale.Codec.word_readsBack a.nonce rest trivial]

/-! ## Addresses -/

namespace StorageKeys

variable {keys : StorageKeys}

def Separate (keys : StorageKeys) : Prop := keys.records ≠ keys.accounts

instance (keys : StorageKeys) : Decidable keys.Separate :=
  inferInstanceAs (Decidable (keys.records ≠ keys.accounts))

theorem records_prefix_namespaceAddress (ns : Bytes) :
    keys.records.toList <+: keys.namespaceAddress ns := List.prefix_append _ _

theorem namespaceAddress_prefix_recordAddress (ns key : Bytes) :
    keys.namespaceAddress ns <+: keys.recordAddress ns key := List.prefix_append _ _

theorem records_prefix_recordAddress (ns key : Bytes) :
    keys.records.toList <+: keys.recordAddress ns key :=
  (records_prefix_namespaceAddress ns).trans (namespaceAddress_prefix_recordAddress ns key)

theorem Separate.not_records_prefix (h : keys.Separate) (account : AccountId) :
    ¬keys.records.toList <+: keys.accountAddress account :=
  Digests.not_records_prefix (d := .standard) h account

theorem Separate.recordAddress_ne (h : keys.Separate) (ns key : Bytes) (account : AccountId) :
    keys.recordAddress ns key ≠ keys.accountAddress account :=
  Digests.recordAddress_ne_accountAddress (d := .standard) h ns key account

/-- No record has the address of an account. -/
def Disjoint (keys : StorageKeys) : Prop :=
  ∀ ns key account, keys.recordAddress ns key ≠ keys.accountAddress account

theorem Separate.disjoint (h : keys.Separate) : keys.Disjoint := h.recordAddress_ne

/-- Where records and accounts are not kept apart, a record that has an account's address comes with two
inputs of one digest. -/
theorem collision_of_recordAddress_eq {ns key : Bytes} {account : AccountId}
    (h : keys.recordAddress ns key = keys.accountAddress account) :
    Scale.encodeBytes ns ≠ account.bytes ∧
      Digest.blake2b128 (Scale.encodeBytes ns) = Digest.blake2b128 account.bytes := by
  unfold recordAddress namespaceAddress accountAddress hashed at h
  rw [List.append_assoc] at h
  have hdigested := (List.append_inj h (by rw [Fixed.length_eq, Fixed.length_eq])).2
  rw [List.append_assoc] at hdigested
  obtain ⟨hdigest, hparts⟩ := List.append_inj hdigested (by rw [Fixed.length_eq, Fixed.length_eq])
  refine ⟨fun hsame => ?_, Fixed.ext hdigest⟩
  rw [hsame] at hparts
  exact Scale.encodeBytes_ne_nil key (List.append_right_eq_self.1 hparts)

theorem accountAddress_inj {a b : AccountId} (h : keys.accountAddress a = keys.accountAddress b) :
    a = b := Digests.accountAddress_inj (d := .standard) h

/-- The address that is derived, if one is, is that of the record; it is derived of short parts. -/
theorem deriveAddress_eq_ok_iff {ns key : Bytes} {address : Address} :
    keys.deriveAddress ns key = .ok address ↔
      ns.length < UInt32.size ∧ key.length < UInt32.size ∧ address = keys.recordAddress ns key :=
  Digests.deriveAddress_eq_ok_iff (d := .standard)

theorem deriveAddress_eq_recordAddress {ns key : Bytes} {address : Address}
    (h : keys.deriveAddress ns key = .ok address) : address = keys.recordAddress ns key :=
  (deriveAddress_eq_ok_iff.1 h).2.2

/-- The beginning of a namespace's addresses is made of a short name. -/
theorem namespacePrefix_eq_ok_iff {ns : Bytes} {start : Address} :
    keys.namespacePrefix ns = .ok start ↔
      ns.length < UInt32.size ∧ start = keys.namespaceAddress ns :=
  Digests.namespacePrefix_eq_ok_iff (d := .standard)

section Short

variable {ns ns' key key' : Bytes} (hns : ns.length < UInt32.size) (hns' : ns'.length < UInt32.size)

include hns hns' in
theorem eq_of_namespaceAddress_prefix
    (h : keys.namespaceAddress ns <+: keys.recordAddress ns' key) : ns = ns' :=
  Digests.eq_of_namespaceAddress_prefix (d := .standard) hns hns' h

include hns hns' in
/-- An address is that of one namespace and key only. -/
theorem recordAddress_inj (hkey : key.length < UInt32.size) (hkey' : key'.length < UInt32.size)
    (h : keys.recordAddress ns key = keys.recordAddress ns' key') : ns = ns' ∧ key = key' :=
  Digests.recordAddress_inj (d := .standard) hns hns' hkey hkey' h

include hns in
theorem deriveAddress_of_short (hkey : key.length < UInt32.size) :
    keys.deriveAddress ns key = .ok (keys.recordAddress ns key) :=
  deriveAddress_eq_ok_iff.2 ⟨hns, hkey, rfl⟩

include hns in
theorem namespacePrefix_of_short : keys.namespacePrefix ns = .ok (keys.namespaceAddress ns) :=
  namespacePrefix_eq_ok_iff.2 ⟨hns, rfl⟩

end Short

/-- The key of an address is recovered under its namespace. -/
theorem recoverKey_recordAddress {ns key : Bytes} (hkey : key.length < UInt32.size) :
    recoverKey (keys.namespaceAddress ns) (keys.recordAddress ns key) = .ok key :=
  Digests.recoverKey_eq_ok_iff.2 ⟨hkey, rfl⟩

end StorageKeys

end MetaLedger
