/-!
# Numbers in a base

Reading digits in a base of up to thirty-six, capital or small letters. No digits at all stand for
zero, and a sign or a gap is no digit.
-/

namespace MetaLedger.Text

/-- The number a digit stands for. -/
def digit? (c : Char) : Option Nat :=
  if '0' ≤ c && c ≤ '9' then some (c.toNat - '0'.toNat)
  else if 'a' ≤ c.toLower && c.toLower ≤ 'z' then some (c.toLower.toNat - 'a'.toNat + 10)
  else none

/-- The number that digits of a base stand for. -/
def number? (base : Nat) (digits : List Char) : Option Nat :=
  digits.foldlM (fun n c => do
    let d ← digit? c
    if d < base then some (base * n + d) else none) 0

end MetaLedger.Text
