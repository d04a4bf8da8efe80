import MetaLedger.Proofs.Remote.Server

/-!
# Queries across the wire

A request that reads the ledger is posted, and a server finds the same request in the body
(`Carries.asked`); an answer is presented as a result, and the client reads the same answer in it
(`Carries.read`). In between, a response with one result and no error is read as that result
(`result_of_presented`), and one with an error never is (`result_of_error`).
-/

namespace MetaLedger.Remote

/-! ## Parameters -/

theorem digit?_digit : ∀ n < 16, Text.digit? (Hex.digit n) = some n := by decide

theorem number?_pair {high low : Nat} (hhigh : high < 16) (hlow : low < 16) :
    Text.number? 16 [Hex.digit high, Hex.digit low] = some (16 * high + low) := by
  simp [Text.number?, digit?_digit, hhigh, hlow]

/-- The server's reader takes the digits that the client writes. -/
theorem pairs?_encodeChars (bytes : Bytes) : pairs? (Hex.encodeChars bytes) = some bytes := by
  induction bytes with
  | nil => rfl
  | cons b bytes ih =>
    obtain ⟨hhigh, hlow⟩ := Hex.halves_lt b
    have hbyte : UInt8.ofNat (16 * (b.toNat / 16) + b.toNat % 16) = b := by
      rw [Nat.div_add_mod]
      exact UInt8.ofNat_toNat
    rw [Hex.encodeChars_cons]
    unfold pairs?
    simp only [number?_pair hhigh hlow, ih, Option.bind_eq_bind, Option.bind_some, hbyte]
    rfl

theorem bytes?_parameter (bytes : Bytes) : bytes? (parameter bytes) = some bytes := by
  unfold bytes? parameter Json.ofString
  simp only [Hex.toList_encode0x]
  exact pairs?_encodeChars bytes

theorem block?_parameter (block : BlockHash) : block? (parameter block.bytes) = some block := by
  unfold block? BlockHash.bytes
  simp only [bytes?_parameter, Option.bind_eq_bind, Option.bind_some, Fixed.ofList?_toList]
  rfl

theorem nullable?_bytes (bytes : Option Bytes) :
    Json.nullable? bytes? (parameter? bytes) = some bytes := by
  cases bytes with
  | none => rfl
  | some bytes => exact congrArg (Option.map some) (bytes?_parameter bytes)

theorem nullable?_block (block : Option BlockHash) :
    Json.nullable? block? (parameter? (block.map BlockHash.bytes)) = some block := by
  cases block with
  | none => rfl
  | some block => exact congrArg (Option.map some) (block?_parameter block)

theorem uint32?_ofNat (n : UInt32) : Json.uint32? (Json.ofNat n.toNat) = some n := by
  have hn : n.toNat < UInt32.size := n.toNat_lt
  show ((if n.toNat < UInt32.size then some n.toNat else none).map UInt32.ofNat) = _
  rw [if_pos hn]
  exact congrArg some UInt32.ofNat_toNat

theorem asked?_body {request : Node.Request} (q : Query request) (id : Nat) :
    asked? (q.body id) = request? q.method q.parameters := rfl

/-! ## Results -/

theorem bytesOfText_encode0x (bytes : Bytes) : bytesOfText (Hex.encode0x bytes) = .ok bytes := by
  unfold bytesOfText
  rw [Hex.decode_encode0x]

theorem hashOfText_text (block : BlockHash) : hashOfText block.text = .ok block.raw := by
  unfold hashOfText BlockHash.text BlockHash.bytes
  rw [bytesOfText_encode0x]
  simp only [Fixed.ofList?_toList]

theorem addressesOfTexts_map (addresses : List Address) :
    addressesOfTexts (addresses.map Hex.encode0x) = .ok addresses := by
  induction addresses with
  | nil => rfl
  | cons address addresses ih =>
    rw [List.map_cons]
    unfold addressesOfTexts
    simp only [bytesOfText_encode0x, ih]

theorem list?_digits (addresses : List Address) :
    Json.list? Json.string? (.array (addresses.map digits)) = some (addresses.map Hex.encode0x) := by
  show (addresses.map digits).mapM Json.string? = _
  induction addresses with
  | nil => rfl
  | cons address addresses ih =>
    rw [List.map_cons, List.mapM_cons, ih]
    rfl

theorem normalItems?_digits (depth : Nat) (addresses : List Address) :
    Json.normalItems? depth (addresses.map digits) = some (addresses.map digits) := by
  induction addresses with
  | nil => rfl
  | cons address addresses ih =>
    rw [List.map_cons, Json.normalItems?, ih]
    rfl

theorem genesisOfResult_digits (hash : BlockHash) : genesisOfResult (digits hash.bytes) = .ok hash := by
  have htext : Json.nullable? Json.string? (digits hash.bytes) = some (some hash.text) := rfl
  unfold genesisOfResult
  rw [htext]
  simp only [expect, bind, Except.bind, hashOfText_text]
  rfl

theorem fromJson?_toJson (version : RuntimeVersion) :
    RuntimeVersion.fromJson? version.toJson = some version := by
  have hfields : Json.fields? ["specVersion", "transactionVersion"] version.toJson =
      some [("transactionVersion", Json.ofNat version.transaction.toNat),
        ("specVersion", Json.ofNat version.spec.toNat)] := rfl
  unfold RuntimeVersion.fromJson?
  rw [hfields]
  show (Json.uint32? (Json.ofNat version.spec.toNat)).bind _ = _
  rw [uint32?_ofNat]
  show (Json.uint32? (Json.ofNat version.transaction.toNat)).bind _ = _
  rw [uint32?_ofNat]
  rfl

theorem versionOfResult_toJson (version : RuntimeVersion) :
    versionOfResult version.toJson = .ok version := by
  unfold versionOfResult
  rw [fromJson?_toJson]
  rfl

theorem valueOfResult_present (address : Address) (block : Option BlockHash) (value : Option Bytes) :
    valueOfResult (present (.storage address block) value) = .ok value := by
  cases value with
  | none => rfl
  | some value =>
    have htext : Json.nullable? Json.string? (digits value) = some (some (Hex.encode0x value)) := rfl
    show valueOfResult (digits value) = _
    unfold valueOfResult
    rw [htext]
    simp only [expect, bind, Except.bind, bytesOfText_encode0x]
    rfl

theorem pageOfResult_digits (addresses : List Address) :
    pageOfResult (.array (addresses.map digits)) = .ok addresses := by
  unfold pageOfResult
  rw [list?_digits]
  exact addressesOfTexts_map addresses

/-- A result is a plain value, so it is read as it is. -/
theorem normal?_present (request : Node.Request) (answer : request.Answer) :
    Json.normal? (Json.maxDepth - 1) (present request answer) = some (present request answer) := by
  cases request with
  | genesisHash => rfl
  | runtimeVersion => rfl
  | storage address block => cases answer <;> rfl
  | keys start count after block =>
    show (Json.normalItems? 125 (answer.map digits)).map Json.array = _
    rw [normalItems?_digits]
    rfl
  | runtimeSchema | submit | submitAndWatch | close => rfl

/-! ## Requests that read -/

/-- The requests that read the ledger. -/
inductive Reading : Node.Request → Prop where
  | genesisHash : Reading .genesisHash
  | runtimeVersion : Reading .runtimeVersion
  | storage (address : Address) (block : Option BlockHash) : Reading (.storage address block)
  | keys (start : Address) (count : UInt32) (after : Option Address) (block : Option BlockHash) :
      Reading (.keys start count after block)

/-- A request and its answer cross the wire unchanged. -/
structure Carries (request : Node.Request) (q : Query request) : Prop where
  asked : ∀ id, asked? (q.body id) = some request
  read : ∀ answer, q.read (present request answer) = .ok answer

/-- Every request that reads is posted, and crosses the wire with its answer. -/
theorem exists_carries {request : Node.Request} (h : Reading request) :
    ∃ q, route request = .post q ∧ Carries request q := by
  cases h with
  | genesisHash => exact ⟨_, rfl, fun _ => rfl, genesisOfResult_digits⟩
  | runtimeVersion => exact ⟨_, rfl, fun _ => rfl, versionOfResult_toJson⟩
  | storage address block =>
    refine ⟨_, rfl, fun id => ?_, valueOfResult_present address block⟩
    rw [asked?_body]
    simp only [request?, bytes?_parameter, nullable?_block, Option.bind_eq_bind, Option.bind_some]
    rfl
  | keys start count after block =>
    refine ⟨_, rfl, fun id => ?_, pageOfResult_digits⟩
    rw [asked?_body]
    simp only [request?, bytes?_parameter, uint32?_ofNat, nullable?_bytes, nullable?_block,
      Option.bind_eq_bind, Option.bind_some]
    rfl

/-! ## Responses -/

theorem knownMembers_others {names : List String} {members : List (String × Json)}
    (h : ∀ member ∈ members, member.1 ∉ names) (seen : Json.Fields)
    (rest : List (Option String × Json)) :
    Json.knownMembers names seen
        ((members.map fun (name, value) => (some name, value)) ++ rest) =
      Json.knownMembers names seen rest := by
  induction members with
  | nil => rfl
  | cons member members ih =>
    have hfirst : ¬names.contains member.1 = true := by
      rw [List.contains_iff_mem]
      exact h member List.mem_cons_self
    show (if names.contains member.1 then _ else Json.knownMembers names seen _) = _
    rw [if_neg hfirst]
    exact ih fun member hmember => h member (List.mem_cons_of_mem _ hmember)

/-- One known member among others. -/
theorem fields?_record {names : List String} {name : String} {value : Json}
    {front back : List (String × Json)} (hname : name ∈ names)
    (hothers : ∀ member ∈ front ++ back, member.1 ∉ names) :
    Json.fields? names (Json.record (front ++ (name, value) :: back)) = some [(name, value)] := by
  have hfront : ∀ member ∈ front, member.1 ∉ names := fun member hmember =>
    hothers member (List.mem_append_left _ hmember)
  have hback : ∀ member ∈ back, member.1 ∉ names := fun member hmember =>
    hothers member (List.mem_append_right _ hmember)
  have hnothing := knownMembers_others hback [(name, value)] []
  rw [List.append_nil] at hnothing
  unfold Json.record Json.fields?
  simp only
  rw [List.map_append, knownMembers_others hfront]
  show (if names.contains name then
    Json.knownMembers names [(name, value)] (back.map fun (name, value) => (some name, value))
    else _) = _
  rw [if_pos (List.contains_iff_mem.2 hname), hnothing]
  rfl

/-- A known member is there under its name, unless a name comes twice. -/
theorem lookup_of_knownMembers {names : List String} {members : List (String × Json)}
    {seen fields : Json.Fields} {name : String} {value : Json} (hname : name ∈ names)
    (h : Json.knownMembers names seen (members.map fun (name, value) => (some name, value)) =
      some fields)
    (hvalue : seen.lookup name = some value ∨ (name, value) ∈ members) :
    fields.lookup name = some value := by
  induction members generalizing seen with
  | nil =>
    cases h
    exact hvalue.resolve_right (List.not_mem_nil)
  | cons member members ih =>
    obtain ⟨other, found⟩ := member
    change (if names.contains other then
      if (seen.lookup other).isSome then none else Json.knownMembers names ((other, found) :: seen) _
      else Json.knownMembers names seen _) = _ at h
    split at h
    · split at h
      · cases h
      · rename_i hfresh
        refine ih h ?_
        rcases hvalue with hseen | hmember
        · -- Seen before, so it is not this one.
          have hother : (name == other) = false := by
            refine beq_eq_false_iff_ne.2 fun heq => hfresh ?_
            rw [← heq, hseen]
            rfl
          rw [List.lookup_cons, hother]
          exact .inl hseen
        · rcases List.mem_cons.1 hmember with hthis | hrest
          · cases hthis
            exact .inl List.lookup_cons_self
          · exact .inr hrest
    · rename_i hunknown
      refine ih h (hvalue.imp_right fun hmember => ?_)
      rcases List.mem_cons.1 hmember with hthis | hrest
      · cases hthis
        exact absurd (List.contains_iff_mem.2 hname) hunknown
      · exact hrest

/-- A response whose one result is a plain value is read as that value. -/
theorem result_of_presented {response : Response} {value : Json} {front back : List (String × Json)}
    (hstatus : isSuccess response.status = true)
    (hbody : Json.read? response.body = some (Json.record (front ++ ("result", value) :: back)))
    (hothers : ∀ member ∈ front ++ back, member.1 ∉ ["result", "error"])
    (hplain : Json.normal? (Json.maxDepth - 1) value = some value) :
    response.result = .ok value := by
  have henvelope : Envelope.fromJson? (Json.record (front ++ ("result", value) :: back)) =
      some ⟨value, none⟩ := by
    unfold Envelope.fromJson?
    rw [fields?_record List.mem_cons_self hothers]
    show (Json.normal? (Json.maxDepth - 1) value).bind _ = _
    rw [hplain]
    rfl
  unfold Response.result
  rw [if_pos hstatus, hbody]
  simp only [Option.bind_some, henvelope]

theorem eq_null_of_nullable? {α : Type} {read : Json → Option α} {value : Json}
    (h : Json.nullable? read value = some none) : value = .null := by
  unfold Json.nullable? at h
  split at h
  · rfl
  · obtain ⟨_, -, heq⟩ := Option.map_eq_some_iff.1 h
    cases heq

/-- A response with an error has no result, whatever else it has. -/
theorem result_of_error {response : Response} {members : List (String × Json)} {error : Json}
    (hbody : Json.read? response.body = some (Json.record members))
    (hmember : ("error", error) ∈ members) (herror : error ≠ .null) :
    ∃ e, response.result = .error e := by
  have henvelope : ∀ result, Envelope.fromJson? (Json.record members) ≠ some ⟨result, none⟩ := by
    intro result heq
    unfold Envelope.fromJson? at heq
    simp only [Option.bind_eq_bind, Option.bind_eq_some_iff] at heq
    obtain ⟨fields, hfields, _, -, found, hfound, heq⟩ := heq
    cases heq
    have hlookup := lookup_of_knownMembers (by decide) hfields (.inr hmember)
    unfold Json.Fields.optional at hfound
    rw [hlookup] at hfound
    exact herror (eq_null_of_nullable? hfound)
  unfold Response.result
  split
  · rw [hbody]
    simp only [Option.bind_some]
    split
    · exact ⟨_, rfl⟩
    · exact ⟨_, rfl⟩
    · exact absurd ‹_› (henvelope _)
  · exact ⟨_, rfl⟩

end MetaLedger.Remote
