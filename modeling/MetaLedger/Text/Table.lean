import MetaLedger.Text.Number
import MetaLedger.Text.Search

/-!
# Tables of characters

Properties of characters are given as lines of rows with a blank between them. A row is a code point or
a range of them, and what they stand for behind an equals sign:

* `AD` and `300-36F` are in the table;
* `41-5A=61` stand for the code points from `61` on, one after the other;
* `100-12E/2=101` is the same for every second code point;
* `DF=73,73` stands for two.

A row that cannot be read is left out.
-/

namespace MetaLedger.Text

/-- A row of a table: the code points from `first` to `last` in steps, and what they stand for. -/
structure Row where
  first : Nat
  last : Nat
  step : Nat := 1
  values : List Nat := []

namespace Row

/-- The code points that a row is about. -/
def keys? (text : List Char) : Option Row := do
  match parts '/' text with
  | [range] => inStep 1 range
  | [range, step] => inStep (← number? 16 step) range
  | _ => none
where
  inStep (step : Nat) (range : List Char) : Option Row := do
    match parts '-' range with
    | [only] => let n ← number? 16 only; return { first := n, last := n, step }
    | [first, last] => return { first := ← number? 16 first, last := ← number? 16 last, step }
    | _ => none

/-- Reads a row. -/
def read? (text : List Char) : Option Row := do
  match parts '=' text with
  | [keys] => keys? keys
  | [keys, []] => keys? keys
  | [keys, values] => return { ← keys? keys with values := ← (parts ',' values).mapM (number? 16) }
  | _ => none

/-- The row is about a code point. -/
def holds (r : Row) (n : Nat) : Bool := r.first ≤ n && n ≤ r.last && (n - r.first) % r.step = 0

/-- What a code point stands for by the row. -/
def valuesOf (r : Row) (n : Nat) : List Nat :=
  match r.values with
  | [value] => [value + (n - r.first)]
  | values => values

end Row

/-- A table of characters. -/
abbrev Table := List Row

namespace Table

/-- Reads a table from lines of rows. -/
def read (lines : List String) : Table :=
  lines.flatMap fun line => (parts ' ' line.toList).filterMap Row.read?

/-- The table is about a character. -/
def holds (t : Table) (c : Char) : Bool := t.any (·.holds c.toNat)

/-- What a character stands for, if the table is about it. -/
def find? (t : Table) (c : Char) : Option (List Char) :=
  (List.find? (·.holds c.toNat) t).map fun r => (r.valuesOf c.toNat).map Char.ofNat

end Table

end MetaLedger.Text
