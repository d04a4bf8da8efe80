import MetaLedger.Store.Session

/-!
# The nonce of an account

A nonce is read from the account's state at the best block, each time it is needed. Transactions that
still wait are not counted, so of two writers who read the same nonce one will be refused.
-/

namespace MetaLedger.Store

/-- Asks for the state of an account. -/
abbrev nonceRequest (session : Session) (account : AccountId) : Node.Request :=
  .storage (session.keys.accountAddress account) none

/-- The nonce in the answer; an account without state is not found. -/
def nonceOfReply (reply : Except Node.Error (Option Bytes)) : Except Error Nonce :=
  match reply with
  | .error e => .error ⟨.chainQuery e, none⟩
  | .ok none => .error ⟨.notFound, none⟩
  | .ok (some raw) =>
    match AccountInfo.decodeNonce raw with
    | .ok nonce => .ok nonce
    | .error failure => .error ⟨.encoding failure, none⟩

/-- The answer to a submission, with the node's error as the store's. -/
def submissionOfReply {α : Type} (reply : Except Node.Error α) : Except Error α :=
  match reply with
  | .ok answer => .ok answer
  | .error e => .error ⟨.submission e, none⟩

end MetaLedger.Store
