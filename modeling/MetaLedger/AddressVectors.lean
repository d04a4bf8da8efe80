import MetaLedger.Address
import MetaLedger.Json.Value

/-!
# Known addresses

Five addresses under the default layout, to be compared with those of a ledger or of another client:
where one differs, reads and writes of the two go to different places.
-/

namespace MetaLedger

/-- What an address is derived for. -/
inductive AddressVector.Subject where
  | record (ns key : Bytes)
  | namespacePrefix (ns : Bytes)
  | account (id : Bytes)
deriving DecidableEq

/-- An address that is known beforehand, in hexadecimal digits. -/
structure AddressVector where
  name : String
  subject : AddressVector.Subject
  expected : String
deriving DecidableEq

namespace AddressVector

namespace Subject

def kind : Subject → String
  | record .. => "record"
  | namespacePrefix _ => "namespace_prefix"
  | account _ => "account"

def ns : Subject → Bytes
  | record ns _ | namespacePrefix ns => ns
  | account _ => []

def key : Subject → Bytes
  | record _ key => key
  | namespacePrefix _ => []
  | account id => id

/-- The address under the default layout, or why there is none. -/
def address (s : Subject) : Except String Address :=
  let keys := StorageKeys.ofLayout {}
  match s with
  | record ns key => (keys.deriveAddress ns key).mapError Failure.message
  | namespacePrefix ns => (keys.namespacePrefix ns).mapError Failure.message
  | account id =>
    match Fixed.ofList? 32 id with
    | some raw => .ok (keys.accountAddress ⟨raw⟩)
    | none => .error ("account key must be 32 bytes, got " ++ toString id.length)

end Subject

/-- The known addresses. -/
def all : List AddressVector := [
  ⟨"short namespace and key", .record (Bytes.ofString "test") (Bytes.ofString "a"),
    "177e6857fb1d0e409376122fee3ad4f82696904a0f56d7d199a005f586ea8372"
      ++ "c66a28419644149496ce3354be3a035d10746573740461"⟩,
  ⟨"empty namespace and key", .record [] [],
    "177e6857fb1d0e409376122fee3ad4f82696904a0f56d7d199a005f586ea8372"
      ++ "7025e075d5e2f6cde3cc051a31f076600000"⟩,
  ⟨"bucket object", .record (Bytes.ofString "bucket") (Bytes.ofString "object-1"),
    "177e6857fb1d0e409376122fee3ad4f82696904a0f56d7d199a005f586ea8372"
      ++ "3dd4b069680b01439280aa6641a09b38186275636b6574206f626a6563742d31"⟩,
  ⟨"namespace prefix", .namespacePrefix (Bytes.ofString "test"),
    "177e6857fb1d0e409376122fee3ad4f82696904a0f56d7d199a005f586ea8372"
      ++ "c66a28419644149496ce3354be3a035d1074657374"⟩,
  ⟨"system account", .account (List.replicate 32 1),
    "26aa394eea5630e07c48ae0c9558cef7b99d880ec681799c0cf30e8886371da9"
      ++ "c035f853fcd0f0589e30c9e2dc1a0f57"
      ++ "0101010101010101010101010101010101010101010101010101010101010101"⟩]

/-- The derived address in digits, or why there is none. -/
def derived (v : AddressVector) : Except String String := v.subject.address.map Hex.encode

/-- For each known address its name, whether it is derived as expected, and what is derived. -/
def checkAll : List (String × Bool × String) :=
  all.map fun v =>
    match v.derived with
    | .ok digits => (v.name, digits == v.expected, digits)
    | .error text => (v.name, false, text)

/-- The known addresses in JSON. -/
def allJson : Json :=
  .array (all.map fun v => Json.record [
    ("name", Json.ofString v.name), ("kind", Json.ofString v.subject.kind),
    ("namespace", Json.ofString (Hex.encode v.subject.ns)),
    ("key", Json.ofString (Hex.encode v.subject.key)), ("expected", Json.ofString v.expected)])

end AddressVector

end MetaLedger
