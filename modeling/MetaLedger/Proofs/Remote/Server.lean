import MetaLedger.Ledger.Service
import MetaLedger.Proofs.Json.RoundTrip
import MetaLedger.Proofs.Text.Hex
import MetaLedger.Remote.Client

/-!
# A ledger behind a server

What it means that the other side of a client answers from a ledger (`Honest`). A server reads posted
requests with a reader of its own, which is stricter than that of clients: one `0x` in front of bytes,
no more. It presents the ledger's answer as the result, bytes as digits behind `0x`, and null for a value
that is absent. Where the ledger refuses, no answer comes back (`Refusal`). A server that writes its
responses as compact text is honest at every ledger (`honest_serving`).
-/

namespace MetaLedger.Remote

open Ledger (Rules State)

/-! ## Reading a request -/

/-- Bytes from digits in pairs. -/
def pairs? : List Char → Option Bytes
  | [] => some []
  | [_] => none
  | high :: low :: rest => do
    let byte ← Text.number? 16 [high, low]
    let bytes ← pairs? rest
    return UInt8.ofNat byte :: bytes

/-- Bytes from digits behind one `0x`. -/
def bytes? : Json → Option Bytes
  | .text (some s) =>
    match s.toList with
    | '0' :: 'x' :: digits => pairs? digits
    | _ => none
  | _ => none

def block? (value : Json) : Option BlockHash := do
  return ⟨← Fixed.ofList? 32 (← bytes? value)⟩

/-- The request of a method with parameters, if it is one that a server knows. -/
def request? (method : String) (parameters : List Json) : Option Node.Request :=
  match method, parameters with
  | "state_getStorage", [address, block] => do
    return .storage (← bytes? address) (← Json.nullable? block? block)
  | "state_getKeysPaged", [start, count, after, block] => do
    return .keys (← bytes? start) (← Json.uint32? count) (← Json.nullable? bytes? after)
      (← Json.nullable? block? block)
  | "chain_getBlockHash", [number] => do
    if (← Json.uint32? number) = 0 then some .genesisHash else none
  | "state_getRuntimeVersion", [] => some .runtimeVersion
  | _, _ => none

/-- The request in a posted body. -/
def asked? (body : Json) : Option Node.Request :=
  match body.member? "method", body.member? "params" with
  | some (.text (some method)), some (.array parameters) => request? method parameters
  | _, _ => none

/-! ## Presenting an answer -/

/-- Bytes as lower-case digits behind `0x`. -/
def digits (bytes : Bytes) : Json := Json.ofString (Hex.encode0x bytes)

/-- The result that an answer is presented as. -/
def present : (request : Node.Request) → request.Answer → Json
  | .genesisHash, hash => digits hash.bytes
  | .runtimeVersion, version => version.toJson
  | .storage .., some value => digits value
  | .storage .., none => .null
  | .keys .., addresses => .array (addresses.map digits)
  | _, _ => .null

/-- What comes back holds no answer: nothing came, or it was not served, or there is an error. -/
inductive Refusal : Option Response → Prop where
  | silent : Refusal none
  | status {response : Response} (h : isSuccess response.status = false) : Refusal (some response)
  | error {response : Response} {members : List (String × Json)} {error : Json}
      (hbody : Json.read? response.body = some (Json.record members))
      (hmember : ("error", error) ∈ members) (herror : error ≠ .null) : Refusal (some response)

/-- What comes back for a body is what the ledger replies to the request in it. -/
structure Honest (r : Rules) (s : State) (net : Network) : Prop where
  /-- The ledger's answer is the one result of a response that was served. -/
  answers : ∀ body request answer, asked? body = some request →
    (s.serve r request).1 = .reply (.ok answer) →
    ∃ response front back, net.post body = some response ∧ isSuccess response.status = true ∧
      Json.read? response.body =
        some (Json.record (front ++ ("result", present request answer) :: back)) ∧
      ∀ member ∈ front ++ back, member.1 ∉ ["result", "error"]
  /-- Where the ledger refuses, there is no answer. -/
  refuses : ∀ body request e, asked? body = some request →
    (s.serve r request).1 = .reply (.error e) → Refusal (net.post body)

/-! ## A server -/

/-- A response with one member, behind the version of the protocol. -/
def respond (name : String) (value : Json) : Response :=
  ⟨200, Json.write (Json.record [("jsonrpc", Json.ofString "2.0"), (name, value)])⟩

/-- A ledger's refusal as an error. -/
def errorOf (e : Node.Error) : Json :=
  Json.record [("code", .number (.negative 32000)), ("message", Json.ofString e.message)]

/-- A subscription that no one serves. -/
def unwatched : WatchNode :=
  let missing := "no subscriptions"
  ⟨.error missing, fun _ => .error missing, fun _ => .error missing, fun _ => .error missing,
    fun _ => .error missing, default⟩

/-- The other side that answers in compact text from a ledger as it stands. -/
def serving (r : Rules) (s : State) : Network where
  post body := do
    let request ← asked? body
    match (s.serve r request).1 with
    | .reply (.ok answer) => some (respond "result" (present request answer))
    | .reply (.error e) => some (respond "error" (errorOf e))
    | .waiting _ => none
  watchNode := unwatched

theorem read?_respond (name : String) {value : Json} (h : Json.Exact value) :
    Json.read? (respond name value).body =
      some (Json.record [("jsonrpc", Json.ofString "2.0"), (name, value)]) := by
  refine Json.read?_write (.record fun member hmember => ?_)
  rcases List.mem_pair.1 hmember with rfl | rfl
  · exact .text _
  · exact h

/-- Every result is written in a text that holds it exactly. -/
theorem exact_present (request : Node.Request) (answer : request.Answer) :
    Json.Exact (present request answer) := by
  cases request with
  | genesisHash => exact .text _
  | runtimeVersion =>
    refine .record fun member hmember => ?_
    rcases List.mem_pair.1 hmember with rfl | rfl
    · exact .natural (Nat.lt_trans (UInt32.toNat_lt _) (by decide))
    · exact .natural (Nat.lt_trans (UInt32.toNat_lt _) (by decide))
  | storage address block =>
    cases answer with
    | none => exact .null
    | some value => exact .text _
  | keys start count after block =>
    refine .array fun item hitem => ?_
    obtain ⟨address, -, rfl⟩ := List.mem_map.1 hitem
    exact .text _
  | runtimeSchema | submit | submitAndWatch | close => exact .null

theorem exact_errorOf (e : Node.Error) : Json.Exact (errorOf e) := by
  refine .record fun member hmember => ?_
  rcases List.mem_pair.1 hmember with rfl | rfl
  · exact .negative (by decide) (by decide)
  · exact .text _

theorem honest_serving (r : Rules) (s : State) : Honest r s (serving r s) where
  answers body request answer hasked hserve := by
    refine ⟨respond "result" (present request answer), [("jsonrpc", Json.ofString "2.0")], [], ?_, rfl,
      read?_respond _ (exact_present request answer), by simp⟩
    unfold serving
    simp only [hasked, hserve, Option.bind_eq_bind, Option.bind_some]
  refuses body request e hasked hserve := by
    have hpost : (serving r s).post body = some (respond "error" (errorOf e)) := by
      unfold serving
      simp only [hasked, hserve, Option.bind_eq_bind, Option.bind_some]
    rw [hpost]
    exact .error (read?_respond _ (exact_errorOf e)) (List.mem_cons_of_mem _ List.mem_cons_self) nofun

end MetaLedger.Remote
