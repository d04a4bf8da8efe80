import MetaLedger.Workbench.Basic

/-!
# Fixtures

Ready-made workbenches: a ledger with one store, whose key pair is made from a known seed.
-/

namespace MetaLedger.Workbench

/-- A ledger with one store to be connected. -/
structure Fixture where
  seed : Fixed 32 := ⟨List.replicate 32 0x42, by simp⟩
  ledger : Ledger.Config := {}
  store : Store.Config := {}

namespace Fixture

/-- Blocks are sealed at once, and a write is done when the pool has accepted it. -/
def plain : Fixture := {}

/-- Blocks are sealed only when asked for, so the state lags behind the writes. -/
def manualSeal : Fixture := { ledger := { sealMode := .manual } }

/-- A write is done when it is in a block, and fails if its call does. -/
def inBlock : Fixture := { store := { submission := .inBlock } }

def signer (f : Fixture) : Signer := Signer.ofSeed f.seed

def account (f : Fixture) : AccountId := f.signer.account

/-- The workbench with the fixture's ledger and, as store 0, its store. -/
def workbench (f : Fixture) : Workbench :=
  ((Workbench.ofConfig f.ledger).connect f.signer f.store none).2

end Fixture

end MetaLedger.Workbench
