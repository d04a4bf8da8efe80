import MetaLedger.Json.Chain
import MetaLedger.Json.Reader
import MetaLedger.Json.Writer
import MetaLedger.Metadata.Schema
import MetaLedger.Node.Request
import MetaLedger.Remote.Refusal
import MetaLedger.Remote.Status

/-!
# Requests and answers on the wire

A remote node is asked by JSON-RPC: a method and its parameters are posted under a running number,
bytes as hexadecimal text behind `0x`. Its response is a result or an error; an error wins over a
result. What a request asks and how its result is read stand side by side in `Query`.
-/

namespace MetaLedger.Remote

/-- What came back for a posted request. -/
structure Response where
  status : Nat
  body : String
deriving DecidableEq

/-- An error that a node answers with. -/
structure RpcError where
  code : Int
  message : String
  /-- Details, as a plain value. -/
  data : Option Json

namespace RpcError

/-- The pool has refused the transaction. -/
def refusalCode : Int := 1010

/-- A waiting transaction has the nonce. -/
def priorityCode : Int := 1014

/-- Reads an error, two containers deep in the response. -/
def fromJson? (value : Json) : Option RpcError := do
  let fields ← Json.fields? ["code", "message", "data"] value
  let plain := Json.nullable? (Json.normal? (Json.maxDepth - 2))
  return {
    code := ← fields.required "code" Json.int64?
    message := ← fields.required "message" Json.string?
    data := ← fields.optional "data" plain none }

/-- The words in which a reason is looked for: those of the details, if there are any. -/
def details (e : RpcError) : String :=
  match e.data with
  | some (.text (some text)) => text
  | some other => Json.write other
  | none => e.message

/-- The pool's reason, if this is a refusal that gives one. -/
def reason? (e : RpcError) : Option Node.Rejection :=
  if e.code = priorityCode then some .priorityTooLow
  else if e.code = refusalCode then reasonIn? (Text.lower e.details)
  else none

def toNodeError (e : RpcError) : Node.Error :=
  match e.reason? with
  | some reason => .rejected reason
  | none =>
    match e.data with
    | some data => .rpc e.code (e.message ++ ": " ++ Json.write data)
    | none => .rpc e.code e.message

end RpcError

/-- A response as it was meant: a result, null if it is missing, and perhaps an error. -/
structure Envelope where
  result : Json
  error : Option RpcError

namespace Envelope

def fromJson? (value : Json) : Option Envelope := do
  let fields ← Json.fields? ["result", "error"] value
  return {
    result := ← fields.optional "result" (Json.normal? (Json.maxDepth - 1)) .null
    error := ← fields.optional "error" (Json.nullable? RpcError.fromJson?) none }

end Envelope

/-- The result in a response. -/
def Response.result (r : Response) : Except Node.Error Json :=
  if isSuccess r.status then
    match (Json.read? r.body).bind Envelope.fromJson? with
    | none => .error (.decode .unexpectedJson)
    | some ⟨_, some e⟩ => .error e.toNodeError
    | some ⟨result, none⟩ => .ok result
  else .error (.transport (.status r.status (statusName r.status) r.body))

/-! ## The values of results -/

/-- A value that is read as expected, or a refusal of the answer. -/
def expect {α : Type} : Option α → Except Node.Error α
  | some value => .ok value
  | none => .error (.decode .unexpectedJson)

def bytesOfText (text : String) : Except Node.Error Bytes :=
  match Hex.decode text with
  | .ok bytes => .ok bytes
  | .error e => .error (.decode (.invalidHex text e))

/-- The 32 bytes of a hash. -/
def hashOfText (text : String) : Except Node.Error (Fixed 32) :=
  match bytesOfText text with
  | .error e => .error e
  | .ok bytes =>
    match Fixed.ofList? 32 bytes with
    | some hash => .ok hash
    | none => .error (.decode (.hashLength bytes.length))

/-- The addresses of a page; the first text that is none decides. -/
def addressesOfTexts : List String → Except Node.Error (List Address)
  | [] => .ok []
  | text :: rest =>
    match bytesOfText text with
    | .error e => .error e
    | .ok address =>
      match addressesOfTexts rest with
      | .error e => .error e
      | .ok addresses => .ok (address :: addresses)

def schemaOfResult (result : Json) : Except Node.Error RuntimeSchema := do
  let text ← expect (Json.string? result)
  Metadata.decodeSchema (← bytesOfText text)

def genesisOfResult (result : Json) : Except Node.Error BlockHash := do
  match ← expect (Json.nullable? Json.string? result) with
  | none => throw (.decode .noGenesis)
  | some text => return ⟨← hashOfText text⟩

def versionOfResult (result : Json) : Except Node.Error RuntimeVersion :=
  expect (RuntimeVersion.fromJson? result)

def valueOfResult (result : Json) : Except Node.Error (Option Bytes) := do
  match ← expect (Json.nullable? Json.string? result) with
  | none => return none
  | some text => return some (← bytesOfText text)

def pageOfResult (result : Json) : Except Node.Error (List Address) := do
  addressesOfTexts (← expect (Json.list? Json.string? result))

def txHashOfResult (result : Json) : Except Node.Error TxHash := do
  let text ← expect (Json.string? result)
  return ⟨← hashOfText text⟩

/-! ## Queries -/

/-- Bytes as a parameter. -/
def parameter (bytes : Bytes) : Json := Json.ofString (Hex.encode0x bytes)

/-- Bytes that may be missing as a parameter. -/
def parameter? : Option Bytes → Json
  | some bytes => parameter bytes
  | none => .null

/-- How a request is asked, and how its result is read. -/
structure Query (request : Node.Request) where
  method : String
  parameters : List Json
  read : Json → request.Reply

/-- What is posted for a query. -/
def Query.body {request : Node.Request} (q : Query request) (id : Nat) : Json :=
  Json.record [("jsonrpc", Json.ofString "2.0"), ("id", Json.ofNat id),
    ("method", Json.ofString q.method), ("params", .array q.parameters)]

/-- How a request is served. -/
inductive Route : Node.Request → Type where
  | post {request : Node.Request} (query : Query request) : Route request
  /-- By a subscription. -/
  | subscribe (x : Extrinsic) : Route (.submitAndWatch x)
  /-- Without the node. -/
  | release : Route .close

/-- The way of each request. -/
def route : (request : Node.Request) → Route request
  | .runtimeSchema => .post ⟨"state_getMetadata", [], schemaOfResult⟩
  | .genesisHash => .post ⟨"chain_getBlockHash", [Json.ofNat 0], genesisOfResult⟩
  | .runtimeVersion => .post ⟨"state_getRuntimeVersion", [], versionOfResult⟩
  | .storage address block =>
    .post ⟨"state_getStorage", [parameter address, parameter? (block.map BlockHash.bytes)],
      valueOfResult⟩
  | .keys start count after block =>
    .post ⟨"state_getKeysPaged",
      [parameter start, Json.ofNat count.toNat, parameter? after,
        parameter? (block.map BlockHash.bytes)],
      pageOfResult⟩
  | .submit x => .post ⟨"author_submitExtrinsic", [parameter x.encode], txHashOfResult⟩
  | .submitAndWatch x => .subscribe x
  | .close => .release

end MetaLedger.Remote
