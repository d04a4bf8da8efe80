import MetaLedger.Report.Chain
import MetaLedger.Workbench.Basic

/-!
# Reports on a workbench

How the outcome of an activity is told in JSON, and where one stands that has none yet. A store that
has been connected is told by its number.
-/

namespace MetaLedger.Report

/-- A transaction that was handed in for a store, with what came of it. -/
def handedIn (kind : CallKind) (call : EncodedCall) (outcome : Json) : Json :=
  Json.record [("call", hex call.raw), ("kind", Json.ofString kind.name), ("r", outcome)]

/-- The outcome of an activity whose store, if it connected one, is the last of the workbench. -/
def outcome (w : Workbench) : Workbench.Outcome → Json
  | .connected (.ok store) =>
    Json.record [("store", Json.ofNat (w.clients.length - 1)),
      ("account", hex store.signer.account.bytes)]
  | .connected (.error e) => storeError e
  | .finished .listKeys keys (.ok _) =>
    Json.record [("ok", .bool true), ("keys", keyList keys)]
  | .finished .listKeys keys (.error e) =>
    Json.record (storeErrorMembers e ++ [("keys", keyList keys)])
  | .finished _ _ (.ok (.value data)) => Json.record [("value", hex data)]
  | .finished _ _ (.ok .done) => done
  | .finished _ _ (.error e) => storeError e
  | .nonce found =>
    result storeError (fun (n : Nonce) => Json.record [("nonce", Json.ofNat n.toNat)]) found
  | .submitted kind call found => handedIn kind call (result storeError txHash found)
  | .included kind call found => handedIn kind call (result storeError receipt found)
  | .receipt found => result nodeError receipt found

def standing (w : Workbench) : Workbench.Standing → Json
  | .pending number => Json.record [("pending", Json.ofNat number)]
  | .ended o => outcome w o
  | .gone number => Json.record [("finished", Json.ofNat number)]
  | .unknown => bare "NoHandle"

end MetaLedger.Report
