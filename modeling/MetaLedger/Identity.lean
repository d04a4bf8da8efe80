import MetaLedger.Text.Hex
import MetaLedger.Ed25519.Signature

/-!
# Accounts, hashes and chains

The 32-byte names of accounts, blocks and transactions, kept apart as types, and what a chain is
known by to a signer: its genesis and the versions of its runtime.
-/

namespace MetaLedger

/-- An account, named by its Ed25519 public key. -/
structure AccountId where
  raw : Fixed 32
deriving DecidableEq, Inhabited

/-- The hash of a block. -/
structure BlockHash where
  raw : Fixed 32
deriving DecidableEq, Inhabited

/-- The hash of a transaction. -/
structure TxHash where
  raw : Fixed 32
deriving DecidableEq, Inhabited

namespace AccountId

def bytes (a : AccountId) : Bytes := a.raw.toList

/-- The hexadecimal digits behind `0x`. -/
def text (a : AccountId) : String := Hex.encode0x a.bytes

/-- The first eight bytes under the type's name, for diagnostics. -/
def label (a : AccountId) : String := "AccountId(" ++ Hex.encode (a.bytes.take 8) ++ ")"

/-- Reads 64 hexadecimal digits, with or without `0x`. -/
def ofHex (s : String) : Except Hex.Error AccountId := AccountId.mk <$> Hex.decodeFixed 32 s

end AccountId

namespace BlockHash

def bytes (h : BlockHash) : Bytes := h.raw.toList

def text (h : BlockHash) : String := Hex.encode0x h.bytes

def label (h : BlockHash) : String := "BlockHash(" ++ Hex.encode (h.bytes.take 8) ++ ")"

/-- Reads 64 hexadecimal digits, with or without `0x`. -/
def ofHex (s : String) : Except Hex.Error BlockHash := BlockHash.mk <$> Hex.decodeFixed 32 s

/-- The hash of zero bytes. -/
def zero : BlockHash := ⟨Fixed.zero 32⟩

end BlockHash

namespace TxHash

def bytes (h : TxHash) : Bytes := h.raw.toList

def text (h : TxHash) : String := Hex.encode0x h.bytes

def label (h : TxHash) : String := "TxHash(" ++ Hex.encode (h.bytes.take 8) ++ ")"

end TxHash

/-- The versions of a runtime that a signature commits to. -/
structure RuntimeVersion where
  spec : UInt32
  transaction : UInt32
deriving DecidableEq

/-- The chain that a signature is bound to. -/
structure ChainBinding where
  genesis : BlockHash
  version : RuntimeVersion
deriving DecidableEq

/-- A signature in diagnostics: its first eight bytes. -/
def Ed25519.Signature.label (s : Signature) : String :=
  "Ed25519Sig(" ++ Hex.encode (s.toList.take 8) ++ "...)"

/-! ## Transaction counts -/

/-- The number of transactions an account has had executed, the nonce of its next one. -/
abbrev Nonce := UInt32

/-- The nonce after `n`; the largest one is its own successor. -/
def Nonce.next (n : Nonce) : Nonce := if n = 0xFFFFFFFF then n else n + 1

end MetaLedger
