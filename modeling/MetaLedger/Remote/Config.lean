import MetaLedger.Json.Fields

/-!
# How a remote node is reached
-/

namespace MetaLedger.Remote

/-- How a remote node is reached. -/
structure Config where
  url : String := "http://127.0.0.1:9933"
  /-- Where transactions are watched; without it they are not. -/
  watchUrl : Option String := some "ws://127.0.0.1:9944"
  timeoutSeconds : Nat := 30
deriving DecidableEq

namespace Config

def toJson (c : Config) : Json :=
  Json.record [("url", Json.ofString c.url),
    ("ws_url", (c.watchUrl.map Json.ofString).getD .null),
    ("request_timeout_secs", Json.ofNat c.timeoutSeconds)]

def fromJson? (value : Json) : Option Config := do
  let fields ← Json.fields? ["url", "ws_url", "request_timeout_secs"] value
  let d : Config := {}
  return {
    url := ← fields.optional "url" Json.string? d.url
    watchUrl := ← fields.optional "ws_url" (Json.nullable? Json.string?) d.watchUrl
    timeoutSeconds :=
      ← fields.optional "request_timeout_secs" (Json.natBelow? UInt64.size) d.timeoutSeconds }

end Config

end MetaLedger.Remote
