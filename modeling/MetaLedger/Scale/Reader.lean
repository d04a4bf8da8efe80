import MetaLedger.Bytes
import MetaLedger.Scale.Error

/-!
# Readers of byte strings

A reader takes a value from the front of a byte string and hands back the rest, or says why it
cannot. Readers are chained with `do`; `complete` asks that nothing is left.
-/

namespace MetaLedger.Scale

/-- Takes a value from the front of a byte string and hands back the rest. -/
def Reader (α : Type) : Type := Bytes → Except Error (α × Bytes)

namespace Reader

variable {α β : Type}

def pure (x : α) : Reader α := fun bytes => .ok (x, bytes)

def bind (r : Reader α) (f : α → Reader β) : Reader β := fun bytes =>
  match r bytes with
  | .ok (x, rest) => f x rest
  | .error e => .error e

instance : Monad Reader where
  pure := Reader.pure
  bind := Reader.bind

@[simp] theorem pure_apply (x : α) (bytes : Bytes) :
    (Pure.pure x : Reader α) bytes = .ok (x, bytes) := rfl

theorem bind_apply (r : Reader α) (f : α → Reader β) (bytes : Bytes) :
    (r >>= f) bytes = match r bytes with
      | .ok (x, rest) => f x rest
      | .error e => .error e := rfl

/-- Fails with `e`, whatever the input. -/
def fail (e : Error) : Reader α := fun _ => .error e

/-- Puts the error of `r`, if there is one, under a name. -/
def inside (wrap : Error → Error) (r : Reader α) : Reader α := fun bytes =>
  match r bytes with
  | .ok result => .ok result
  | .error e => .error (wrap e)

/-- Reads the field `path` of a record. -/
def field (path : String) (r : Reader α) : Reader α := inside (.field path) r

/-- The next byte. -/
def byte : Reader UInt8
  | b :: rest => .ok (b, rest)
  | [] => .error .notEnoughData

/-- The next `n` bytes. -/
def fixed (n : Nat) : Reader (Fixed n) := fun bytes =>
  match Fixed.ofList? n (bytes.take n) with
  | some b => .ok (b, bytes.drop n)
  | none => .error .notEnoughData

/-- An integer of `width` bytes, least significant first. -/
def natLE (width : Nat) : Reader Nat := do
  let bytes ← fixed width
  return Bytes.toNatLE bytes.toList

/-- As many values as `n` says, one after the other. -/
def times (r : Reader α) : Nat → Reader (List α)
  | 0 => Pure.pure []
  | n + 1 => do
    let x ← r
    let xs ← times r n
    return x :: xs

/-- The value of a reader that takes the whole input. -/
def complete (r : Reader α) (bytes : Bytes) : Except Error α :=
  match r bytes with
  | .ok (x, []) => .ok x
  | .ok (_, _ :: _) => .error .trailingData
  | .error e => .error e

end Reader

end MetaLedger.Scale
