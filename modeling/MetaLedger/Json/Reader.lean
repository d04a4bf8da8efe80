import MetaLedger.Json.Value

/-!
# Reading JSON text

The grammar is the strict one: no leading zeros, no trailing commas, no control characters in texts,
nothing but blanks after the value. The reader of a value hands back the rest of the text. Its fuel
is the length of the text, of which every step takes at least one character.
-/

namespace MetaLedger.Json

/-- The text without leading blanks. -/
def skipBlanks : List Char → List Char
  | c :: rest =>
    if c = ' ' || c = '\n' || c = '\t' || c = '\r' then skipBlanks rest else c :: rest
  | [] => []

/-! ## Numbers -/

def isDigit (c : Char) : Bool := '0' ≤ c && c ≤ '9'

def digitsValue (digits : List Char) : Nat :=
  digits.foldl (fun n c => 10 * n + (c.toNat - '0'.toNat)) 0

/-- A number's parts as written. -/
structure Numeral where
  negative : Bool
  whole : List Char
  fraction : Option (List Char)
  /-- The exponent's sign and digits. -/
  exponent : Option (Bool × List Char)

/-- The digits before the point: a zero alone, or digits without a leading zero. -/
def readWhole : List Char → Option (List Char × List Char)
  | '0' :: c :: rest => if isDigit c then none else some (['0'], c :: rest)
  | '0' :: [] => some (['0'], [])
  | input =>
    match input.takeWhile isDigit with
    | [] => none
    | digits => some (digits, input.dropWhile isDigit)

/-- At least one digit. -/
def readDigits (input : List Char) : Option (List Char × List Char) :=
  match input.takeWhile isDigit with
  | [] => none
  | digits => some (digits, input.dropWhile isDigit)

def readFraction : List Char → Option (Option (List Char) × List Char)
  | '.' :: rest => (readDigits rest).map fun (digits, rest) => (some digits, rest)
  | input => some (none, input)

def readExponent : List Char → Option (Option (Bool × List Char) × List Char)
  | c :: rest =>
    if c = 'e' || c = 'E' then
      let (negative, rest) :=
        match rest with
        | '+' :: rest => (false, rest)
        | '-' :: rest => (true, rest)
        | rest => (false, rest)
      (readDigits rest).map fun (digits, rest) => (some (negative, digits), rest)
    else some (none, c :: rest)
  | [] => some (none, [])

def readNumeral (negative : Bool) (input : List Char) : Option (Numeral × List Char) := do
  let (whole, input) ← readWhole input
  let (fraction, input) ← readFraction input
  let (exponent, input) ← readExponent input
  return (⟨negative, whole, fraction, exponent⟩, input)

/-- Adds digits to a number as long as it stays below `2 ^ 64`, and counts the digits not added. -/
def accumulate (n : Nat) : List Char → Nat × List Char
  | [] => (n, [])
  | c :: rest =>
    let next := 10 * n + (c.toNat - '0'.toNat)
    if next < UInt64.size then accumulate next rest else (n, c :: rest)

namespace Numeral

/-- The number as a double, from at most 64 bits of its digits. -/
def real (x : Numeral) : Number :=
  let (n, dropped) := accumulate 0 x.whole
  let (n, taken) :=
    match x.fraction with
    | none => (n, 0)
    | some digits =>
      let (m, left) := accumulate n digits
      (m, digits.length - left.length)
  let scale : Int := (dropped.length : Int) - taken
  let bits? :=
    match x.exponent with
    | none => Decimal.ofParts? x.negative n scale
    | some (down, digits) =>
      let e := digitsValue digits
      if UInt32.size / 2 ≤ e then
        if n ≠ 0 && !down then none else Decimal.ofParts? x.negative 0 0
      else Decimal.ofParts? x.negative n (if down then scale - e else scale + e)
  match bits? with
  | some bits => .real bits
  | none => .beyondRange

/-- The number by the kind of its spelling. -/
def number (x : Numeral) : Number :=
  if x.fraction.isNone && x.exponent.isNone then
    let n := digitsValue x.whole
    if x.negative then
      if 0 < n && n ≤ UInt64.size / 2 then .negative n else x.real
    else if n < UInt64.size then .natural n
    else x.real
  else x.real

end Numeral

/-! ## Texts -/

def hexValue? (c : Char) : Option Nat :=
  if '0' ≤ c && c ≤ '9' then some (c.toNat - 48)
  else if 'a' ≤ c && c ≤ 'f' then some (c.toNat - 87)
  else if 'A' ≤ c && c ≤ 'F' then some (c.toNat - 55)
  else none

/-- The number of an escape by number. -/
def readUnit : List Char → Option (Nat × List Char)
  | a :: b :: c :: d :: rest => do
    let a ← hexValue? a
    let b ← hexValue? b
    let c ← hexValue? c
    let d ← hexValue? d
    return (((a * 16 + b) * 16 + c) * 16 + d, rest)
  | _ => none

/-- A piece of a text: a character, or a number that may be half of a surrogate pair. -/
inductive Piece where
  | char (c : Char)
  | unit (n : Nat)

/-- The short escapes. -/
def escapes : List (Char × Char) :=
  [('"', '"'), ('\\', '\\'), ('/', '/'), ('b', '\x08'), ('f', '\x0c'), ('n', '\n'), ('r', '\r'),
    ('t', '\t')]

/-- Reads the pieces of a text up to its closing quote; `seen` holds them last first. -/
def readPieces (fuel : Nat) (seen : List Piece) (input : List Char) :
    Option (List Piece × List Char) :=
  match fuel, input with
  | _, '"' :: rest => some (seen.reverse, rest)
  | fuel + 1, '\\' :: 'u' :: rest =>
    match readUnit rest with
    | some (n, rest) => readPieces fuel (.unit n :: seen) rest
    | none => none
  | fuel + 1, '\\' :: c :: rest =>
    match escapes.lookup c with
    | some plain => readPieces fuel (.char plain :: seen) rest
    | none => none
  | fuel + 1, c :: rest =>
    if c.toNat < 32 || c = '\\' then none else readPieces fuel (.char c :: seen) rest
  | _, _ => none

def isHighSurrogate (n : Nat) : Bool := 0xD800 ≤ n && n ≤ 0xDBFF

def isLowSurrogate (n : Nat) : Bool := 0xDC00 ≤ n && n ≤ 0xDFFF

/-- The characters of the pieces, last first; nothing where a surrogate stands alone. -/
def joinPieces (seen : List Char) : List Piece → Option (List Char)
  | [] => some seen
  | .char c :: rest => joinPieces (c :: seen) rest
  | .unit high :: .unit low :: rest =>
    if isHighSurrogate high then
      if isLowSurrogate low then
        let n := 0x10000 + (high - 0xD800) * 0x400 + (low - 0xDC00)
        joinPieces (Char.ofNat n :: seen) rest
      else none
    else if isLowSurrogate high then none
    else joinPieces (Char.ofNat high :: seen) (.unit low :: rest)
  | .unit n :: rest =>
    if isHighSurrogate n || isLowSurrogate n then none
    else joinPieces (Char.ofNat n :: seen) rest

/-- Reads a text behind its opening quote. -/
def readText (input : List Char) : Option (Option String × List Char) :=
  match readPieces input.length [] input with
  | some (pieces, rest) =>
    some ((joinPieces [] pieces).map fun seen => String.ofList seen.reverse, rest)
  | none => none

/-! ## Values -/

/-- The text after a word it begins with. -/
def readWord (word : String) (input : List Char) : Option (List Char) :=
  if word.toList.isPrefixOf input then some (input.drop word.length) else none

mutual

/-- Reads a value from the front of a text. -/
def readValue (fuel : Nat) (input : List Char) : Option (Json × List Char) :=
  match fuel with
  | 0 => none
  | fuel + 1 =>
    match skipBlanks input with
    | '"' :: rest => (readText rest).map fun (s, rest) => (Json.text s, rest)
    | '[' :: rest =>
      match skipBlanks rest with
      | ']' :: rest => some (array [], rest)
      | rest => readItems fuel [] rest
    | '\x7b' :: rest =>
      match skipBlanks rest with
      | '\x7d' :: rest => some (object [], rest)
      | rest => readMembers fuel [] rest
    | '-' :: rest => (readNumeral true rest).map fun (x, rest) => (number x.number, rest)
    | 'n' :: rest => (readWord "ull" rest).map (null, ·)
    | 't' :: rest => (readWord "rue" rest).map (bool true, ·)
    | 'f' :: rest => (readWord "alse" rest).map (bool false, ·)
    | rest => (readNumeral false rest).map fun (x, rest) => (number x.number, rest)

/-- Reads the items of an array up to its end; `seen` holds those before, last first. -/
def readItems (fuel : Nat) (seen : List Json) (input : List Char) : Option (Json × List Char) :=
  match fuel with
  | 0 => none
  | fuel + 1 =>
    match readValue fuel input with
    | none => none
    | some (item, rest) =>
      match skipBlanks rest with
      | ',' :: rest => readItems fuel (item :: seen) rest
      | ']' :: rest => some (array (item :: seen).reverse, rest)
      | _ => none

/-- Reads the members of an object up to its end; `seen` holds those before, last first. -/
def readMembers (fuel : Nat) (seen : List (Option String × Json)) (input : List Char) :
    Option (Json × List Char) :=
  match fuel with
  | 0 => none
  | fuel + 1 =>
    match skipBlanks input with
    | '"' :: rest =>
      match readText rest with
      | none => none
      | some (name, rest) =>
        match skipBlanks rest with
        | ':' :: rest =>
          match readValue fuel rest with
          | none => none
          | some (value, rest) =>
            match skipBlanks rest with
            | ',' :: rest => readMembers fuel ((name, value) :: seen) rest
            | '\x7d' :: rest => some (object ((name, value) :: seen).reverse, rest)
            | _ => none
        | _ => none
    | _ => none

end

/-- The value that a text holds, with nothing but blanks around it. -/
def read? (input : String) : Option Json :=
  let chars := input.toList
  match readValue (2 * chars.length + 2) chars with
  | some (value, rest) => if (skipBlanks rest).isEmpty then some value else none
  | none => none

end MetaLedger.Json
