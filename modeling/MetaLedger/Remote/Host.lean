import MetaLedger.DomainName.Basic
import MetaLedger.Text.Hex

/-!
# Hosts

What a host in a URL names: a domain, or an address of version 4 or 6. A host whose last label is a
number is an address of version 4, each of whose numbers may be decimal, octal behind `0` or
hexadecimal behind `0x`; the last number fills all the bytes that are left.
-/

namespace MetaLedger.Remote

/-- What a host in a URL names. -/
inductive Host where
  | domain (name : List Char)
  | ipv4 (address : Nat)
  /-- An address in eight pieces of 16 bits. -/
  | ipv6 (pieces : List Nat)
deriving DecidableEq

namespace Host

open Text (number? parts)

/-! ## Addresses of version 4 -/

/-- A number of an address of version 4. -/
def ipv4Number? : List Char → Option Nat
  | [] => none
  | '0' :: 'x' :: digits => number? 16 digits
  | '0' :: 'X' :: digits => number? 16 digits
  | '0' :: digit :: digits => number? 8 (digit :: digits)
  | digits => number? 10 digits

/-- The labels of a host without an empty one at the end. -/
def closed (labels : List (List Char)) : List (List Char) :=
  match labels.reverse with
  | [] :: last :: front => (last :: front).reverse
  | _ => labels

/-- The host has a number as its last label. -/
def endsInNumber (labels : List (List Char)) : Bool :=
  match (closed labels).getLast? with
  | some last =>
    !last.isEmpty && (last.all (fun c => '0' ≤ c && c ≤ '9') || (ipv4Number? last).isSome)
  | none => false

/-- The address of up to four numbers: a byte each, and the last one the bytes that are left. -/
def ipv4? (labels : List (List Char)) : Option Nat := do
  let numbers ← (closed labels).mapM ipv4Number?
  let last ← numbers.getLast?
  let front := numbers.dropLast
  let left := 8 * (4 - front.length)
  if front.length ≤ 3 && front.all (· < 256) && last < 1 <<< left then
    some ((front.foldl (fun n byte => 256 * n + byte) 0 <<< left) + last)
  else none

/-! ## Addresses of version 6 -/

/-- A byte in plain decimal. -/
def byte? (text : List Char) : Option Nat := do
  let n ← number? 10 text
  if !text.isEmpty && n < 256 && (text.length = 1 || text.head? ≠ some '0') then some n else none

/-- The two pieces of an address of version 4 at the end of one of version 6. -/
def lastPieces? (text : List Char) : Option (List Nat) := do
  match ← (parts '.' text).mapM byte? with
  | [a, b, c, d] => some [256 * a + b, 256 * c + d]
  | _ => none

/-- The pieces between colons; the last may be an address of version 4 if `dotted`. -/
def piecesOf? (dotted : Bool) : List (List Char) → Option (List Nat)
  | [] => some []
  | [last] => if dotted && last.contains '.' then lastPieces? last else
      (piece? last).map ([·])
  | first :: rest => do
    let piece ← piece? first
    let pieces ← piecesOf? dotted rest
    return piece :: pieces
where
  /-- Up to four hexadecimal digits. -/
  piece? (text : List Char) : Option Nat :=
    if text.isEmpty || 4 < text.length then none else number? 16 text

/-- The pieces of a row of them, which may be empty. -/
def row? (dotted : Bool) (text : List Char) : Option (List Nat) :=
  if text.isEmpty then some [] else piecesOf? dotted (parts ':' text)

/-- What stands before and behind the first two colons in a row. -/
def aroundGap? : List Char → Option (List Char × List Char)
  | ':' :: ':' :: rest => some ([], rest)
  | c :: rest => (aroundGap? rest).map fun (before, behind) => (c :: before, behind)
  | [] => none

/-- The eight pieces of an address; two colons in a row stand for the zeros that are missing. -/
def ipv6? (text : List Char) : Option (List Nat) :=
  match aroundGap? text with
  | none => (row? true text).filter (·.length = 8)
  | some (before, behind) => do
    let before ← row? false before
    let behind ← row? true behind
    let given := before.length + behind.length
    if given < 8 then some (before ++ List.replicate (8 - given) 0 ++ behind) else none

/-! ## Hosts -/

/-- Two hexadecimal digits behind a percent sign stand for a byte. -/
def unescaped : Bytes → Bytes
  | 0x25 :: a :: b :: rest =>
    match Hex.digitValue? a, Hex.digitValue? b with
    | some a, some b => (16 * a + b) :: unescaped rest
    | _, _ => 0x25 :: unescaped (a :: b :: rest)
  | byte :: rest => byte :: unescaped rest
  | [] => []

/-- An address between brackets. -/
def bracketed? (text : List Char) : Option Host :=
  if text.getLast? = some ']' then (ipv6? text.dropLast).map ipv6 else none

/-- A host in a URL of the web: an address, or a domain name that is not empty. -/
def ofWeb? : List Char → Option Host
  | '[' :: rest => bracketed? rest
  | text => do
    let plain ← Bytes.toString? (unescaped (Bytes.ofString (String.ofList text)))
    let labels ← DomainName.labels? plain.toList
    if labels = [[]] then none
    else if endsInNumber labels then (ipv4? labels).map ipv4
    else some (domain (List.intercalate ['.'] labels))

/-- A character that no host holds, whatever the scheme. -/
def isForbidden (c : Char) : Bool :=
  ['\x00', '\t', '\n', '\r', ' ', '#', '/', ':', '<', '>', '?', '@', '[', '\\', ']', '^',
    '|'].contains c

/-- A host in any other URL: an address between brackets, or a name that is left as it is. -/
def ofOther? : List Char → Option Host
  | '[' :: rest => bracketed? rest
  | text => if text.any isForbidden then none else some (domain text)

/-- The host is this machine. -/
def isLoopback : Host → Bool
  | domain name => name = "localhost".toList
  | ipv4 address => address >>> 24 = 127
  | ipv6 pieces => pieces = [0, 0, 0, 0, 0, 0, 0, 1]

end Host

end MetaLedger.Remote
