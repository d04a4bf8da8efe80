import MetaLedger.DomainName.Plain
import MetaLedger.Text.Number

/-!
# Labels in plain characters

A label with characters beyond ASCII has a form in plain ones: those of its characters that are plain,
a hyphen, and digits that say which other characters stand where. Each other character is told by a
number of its own, which counts how far it is from the one before in the order of code points and
places. A number is written in digits of growing weight; the first digit below its threshold ends it.
-/

namespace MetaLedger.DomainName.Punycode

/-- The value of a digit: letters come before numbers. -/
def digit? (c : Char) : Option Nat := do
  let d ← Text.digit? c
  return if d < 10 then d + 26 else d - 10

/-- A digit below its threshold ends its number. -/
def threshold (bias position : Nat) : Nat :=
  if position ≤ bias then 1 else min 26 (position - bias)

/-- Divides until little is left, and counts 36 for each time. -/
def scaled (delta : Nat) : Nat × Nat :=
  if 455 < delta then
    let (rest, count) := scaled (delta / 35)
    (rest, count + 36)
  else (delta, 0)

/-- The bias of the number behind one of value `delta`, with which the text has `size` characters. -/
def adapted (isFirst : Bool) (delta size : Nat) : Nat :=
  let delta := if isFirst then delta / 700 else delta / 2
  let (rest, count) := scaled (delta + delta / size)
  count + 36 * rest / (rest + 38)

/-- A label that is being read. -/
structure Reading where
  /-- What has been read so far. -/
  text : List Char
  /-- The code point that the next character has at least. -/
  code : Nat := 128
  /-- The place of the next character, as far as its number has been read. -/
  index : Nat := 0
  /-- The place from which the number counts. -/
  origin : Nat := 0
  bias : Nat := 72
  /-- The weight of the next digit. -/
  weight : Nat := 1
  /-- The position of the next digit, which its threshold depends on. -/
  position : Nat := 36

namespace Reading

/-- Puts in the character whose number has been read. -/
def insert? (r : Reading) : Option Reading :=
  let size := r.text.length + 1
  let code := r.code + r.index / size
  if code < 0xD800 || 0xDFFF < code && code < 0x110000 then
    let place := r.index % size
    some {
      text := r.text.insertIdx place (Char.ofNat code)
      code
      index := place + 1
      origin := place + 1
      bias := adapted (r.origin = 0) (r.index - r.origin) size }
  else none

/-- Reads a digit. Numbers that do not fit into 32 bits are refused. -/
def step? (r : Reading) (c : Char) : Option Reading := do
  let d ← digit? c
  let t := threshold r.bias r.position
  let read := { r with index := r.index + d * r.weight }
  if UInt32.size ≤ read.index then none
  else if d < t then read.insert?
  else if UInt32.size ≤ r.weight * (36 - t) then none
  else return { read with weight := r.weight * (36 - t), position := r.position + 36 }

end Reading

/-- The plain characters of a label, and the digits behind the last hyphen. A hyphen at the very start
is no plain character's. -/
def halves (label : List Char) : List Char × List Char :=
  let digits := (label.reverse.takeWhile (· ≠ '-')).reverse
  let plain := label.take (label.length - digits.length - 1)
  if plain.isEmpty then ([], label) else (plain, digits)

/-- Reads a label; `none` if it is not in plain characters or its digits break off. -/
def decode? (label : List Char) : Option (List Char) := do
  let (plain, digits) := halves label
  if arePlain plain then
    let r ← digits.foldlM Reading.step? { text := plain }
    if r.position = 36 then some r.text else none
  else none

end MetaLedger.DomainName.Punycode
