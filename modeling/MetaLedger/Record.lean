import MetaLedger.Failure
import MetaLedger.Identity
import MetaLedger.Scale.Codec

/-!
# Stored values

What a ledger keeps at an address: the record of a key (`Record`), or the state of an account
(`AccountInfo`). A record is read only as a whole. An account's nonce stands in front of its other
fields, so it is read without them.
-/

namespace MetaLedger

/-- An account id is written as its 32 bytes. -/
def AccountId.codec : Scale.Codec AccountId :=
  ((Scale.Codec.fixed 32).field "AccountId.0").iso AccountId.mk AccountId.raw

/-- A metadata value and the account that created it. -/
structure Record where
  data : Bytes
  owner : AccountId
deriving DecidableEq

namespace Record

def codec : Scale.Codec Record :=
  (Scale.Codec.bytes.field "StoredRecord::data").pair
    (AccountId.codec.field "StoredRecord::owner")
  |>.iso (fun (data, owner) => ⟨data, owner⟩) (fun r => (r.data, r.owner))

def encode (r : Record) : Bytes := codec.encode r

/-- Reads a stored value that is a record and nothing more. -/
def decode (raw : Bytes) : Except Failure Record :=
  match codec.read raw with
  | .error e => .error (.codec e)
  | .ok (record, rest) =>
    if rest.isEmpty then .ok record else .error (.decoding (.afterRecord rest.length))

end Record

/-- An amount of a currency, or a tip: a 128-bit number. -/
abbrev Amount := BitVec 128

/-- The state of an account: its nonce, its reference counts and its balances. -/
structure AccountInfo where
  nonce : Nonce := 0
  consumers : UInt32 := 0
  providers : UInt32 := 0
  sufficients : UInt32 := 0
  free : Amount := 0
  reserved : Amount := 0
  frozen : Amount := 0
  flags : Amount := 0
deriving DecidableEq

namespace AccountInfo

/-- The state an account starts with when the ledger first has to keep one for it. -/
def fresh : AccountInfo := { providers := 1 }

open Scale.Codec in
def codec : Scale.Codec AccountInfo :=
  (word.pair <| word.pair <| word.pair <| word.pair <|
    wide.pair <| wide.pair <| wide.pair wide)
  |>.iso
    (fun (nonce, consumers, providers, sufficients, free, reserved, frozen, flags) =>
      ⟨nonce, consumers, providers, sufficients, free, reserved, frozen, flags⟩)
    (fun a =>
      (a.nonce, a.consumers, a.providers, a.sufficients, a.free, a.reserved, a.frozen, a.flags))

def encode (a : AccountInfo) : Bytes := codec.encode a

/-- Reads an account's state from the front of a stored value. -/
def decode? (raw : Bytes) : Option AccountInfo :=
  match codec.read raw with
  | .ok (info, _) => some info
  | .error _ => none

/-- Reads the nonce alone, whatever follows it. -/
def decodeNonce (raw : Bytes) : Except Failure Nonce :=
  match Scale.Codec.word.read raw with
  | .ok (nonce, _) => .ok nonce
  | .error e => .error (.codec e)

end AccountInfo

end MetaLedger
