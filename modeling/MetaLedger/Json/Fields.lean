import MetaLedger.Json.Value

/-!
# Reading records from JSON

A record is an object, in which unknown members are passed over and no known one may come twice, or
an array of its fields in their order, of which the last ones may be missing. What a missing field
stands for is for the reader of the record to say: a default, or a refusal.
-/

namespace MetaLedger.Json

/-- The fields of a record that a value has, under their names. -/
abbrev Fields := List (String × Json)

/-- Pairs the known members with their values; a second one of a name is refused. -/
def knownMembers (names : List String) (seen : Fields) :
    List (Option String × Json) → Option Fields
  | [] => some seen
  | (none, _) :: _ => none
  | (some name, value) :: rest =>
    if names.contains name then
      if (seen.lookup name).isSome then none
      else knownMembers names ((name, value) :: seen) rest
    else knownMembers names seen rest

/-- The fields of a record with the given field names. -/
def fields? (names : List String) : Json → Option Fields
  | object members => knownMembers names [] members
  | array items => if items.length ≤ names.length then some (names.zip items) else none
  | _ => none

namespace Fields

variable {α : Type}

/-- A field that has to be there. -/
def required (fields : Fields) (name : String) (read : Json → Option α) : Option α :=
  match fields.lookup name with
  | some value => read value
  | none => none

/-- A field that has a default. -/
def optional (fields : Fields) (name : String) (read : Json → Option α) (default : α) :
    Option α :=
  match fields.lookup name with
  | some value => read value
  | none => some default

end Fields

/-! ## The values of fields -/

/-- An integer below `bound`. -/
def natBelow? (bound : Nat) : Json → Option Nat
  | number (.natural n) => if n < bound then some n else none
  | _ => none

def uint8? (value : Json) : Option UInt8 := (natBelow? UInt8.size value).map UInt8.ofNat

def uint32? (value : Json) : Option UInt32 := (natBelow? UInt32.size value).map UInt32.ofNat

def uint64? (value : Json) : Option UInt64 := (natBelow? UInt64.size value).map UInt64.ofNat

/-- A signed integer of 64 bits. -/
def int64? : Json → Option Int
  | number (.natural n) => if n < UInt64.size / 2 then some n else none
  | number (.negative n) => some (-(n : Int))
  | _ => none

def string? : Json → Option String
  | text s => s
  | _ => none

def bool? : Json → Option Bool
  | bool b => some b
  | _ => none

def list? {α : Type} (read : Json → Option α) : Json → Option (List α)
  | array items => items.mapM read
  | _ => none

/-- A value that may be null. -/
def nullable? {α : Type} (read : Json → Option α) : Json → Option (Option α)
  | null => some none
  | value => (read value).map some

/-- One of a few names, as a text or as the only member of an object, without a value. -/
def choice? {α : Type} (names : List (String × α)) : Json → Option α
  | text (some name) => names.lookup name
  | object [(some name, null)] => names.lookup name
  | _ => none

end MetaLedger.Json
