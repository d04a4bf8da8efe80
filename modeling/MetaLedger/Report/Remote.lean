import MetaLedger.Remote.Client
import MetaLedger.Report.Chain

/-!
# Reports on a remote node

How the replies of a remote node are told in JSON. Messages that come from a connection, or from a
reader of JSON or metadata, are left out: only that there was such an error is told.
-/

namespace MetaLedger.Report

/-- The message of an error is this library's own. -/
def isOwnMessage : Node.Error → Bool
  | .transport (.status ..) | .transport .subscriptionEnded => true
  | .transport _ => false
  | .decode .unreadableMetadata | .decode .unexpectedJson | .decode (.reported _) => false
  | .decode (.errorPalletMissing _) | .decode (.errorVariantMissing _) => false
  | _ => true

/-- An error of a remote node. -/
def remoteError (e : Node.Error) : Json :=
  if isOwnMessage e then nodeError e
  else Json.record ([("error", Json.ofString (nodeErrorKind e))] ++ reason e)

/-- An answer by the request it is for. -/
def remoteAnswer : (request : Node.Request) → request.Answer → Json
  | .runtimeSchema, s => schema s
  | .genesisHash, h => blockHash h
  | .runtimeVersion, v => Json.record [("version", v.toJson)]
  | .storage .., v => value v
  | .keys .., keys => Json.record [("keys", keyList keys)]
  | .submit _, h => txHash h
  | .submitAndWatch _, r => receipt r
  | .close, _ => done

/-- A reply by the request it is for. -/
def remoteReply (request : Node.Request) (reply : request.Reply) : Json :=
  result remoteError (remoteAnswer request) reply

end MetaLedger.Report
