import MetaLedger.Decimal.Double

/-!
# JSON values

A JSON text as it was written: members in their order, repeated ones included. Numbers are kept by
the kind of their spelling, because an integer is never read from a number with a fraction. Two things
that a text may hold and no value can are kept as such, since a member that nobody asks for may
hold them: half of a surrogate pair, and a number beyond the range of a double.

`normal?` gives the plain value: no such parts, one member for each name, in the order of the names.
-/

namespace MetaLedger

/-- A number by the kind of its spelling. -/
inductive Json.Number where
  /-- An integer from zero to `2 ^ 64 - 1`. -/
  | natural (n : Nat)
  /-- The negative of an integer from one to `2 ^ 63`. -/
  | negative (n : Nat)
  /-- Any other number, by the bits of its double. -/
  | real (bits : UInt64)
  | beyondRange
deriving DecidableEq

/-- A JSON value as it was written. A text or name is missing where it held half of a surrogate
pair. -/
inductive Json where
  | null
  | bool (value : Bool)
  | number (value : Json.Number)
  | text (value : Option String)
  | array (items : List Json)
  | object (members : List (Option String × Json))
deriving Inhabited

namespace Json

def ofNat (n : Nat) : Json := number (.natural n)

def ofString (s : String) : Json := text (some s)

/-- An object of readable names. -/
def record (members : List (String × Json)) : Json :=
  object (members.map fun (name, value) => (some name, value))

/-- Adds a member in the order of names; a later member replaces an earlier one of its name. -/
def insertMember (name : String) (value : Json) :
    List (Option String × Json) → List (Option String × Json)
  | [] => [(some name, value)]
  | (other, old) :: rest =>
    match other with
    | none => (none, old) :: insertMember name value rest
    | some key =>
      if name < key then (some name, value) :: (some key, old) :: rest
      else if name = key then (some name, value) :: rest
      else (some key, old) :: insertMember name value rest

/-- How many containers may stand inside each other where a value is read as a whole. -/
def maxDepth : Nat := 127

mutual

/-- The plain value, if every part is readable and no more than `depth` containers nest. -/
def normal? (depth : Nat) : Json → Option Json
  | null => some null
  | bool value => some (bool value)
  | number .beyondRange => none
  | number value => some (number value)
  | text none => none
  | text (some s) => some (text (some s))
  | array items =>
    match depth with
    | 0 => none
    | depth + 1 => (normalItems? depth items).map array
  | object members =>
    match depth with
    | 0 => none
    | depth + 1 => (normalMembers? depth [] members).map object

def normalItems? (depth : Nat) : List Json → Option (List Json)
  | [] => some []
  | item :: rest =>
    match normal? depth item, normalItems? depth rest with
    | some item, some rest => some (item :: rest)
    | _, _ => none

def normalMembers? (depth : Nat) (sorted : List (Option String × Json)) :
    List (Option String × Json) → Option (List (Option String × Json))
  | [] => some sorted
  | (none, _) :: _ => none
  | (some name, value) :: rest =>
    match normal? depth value with
    | some value => normalMembers? depth (insertMember name value sorted) rest
    | none => none

end

/-- The member of a name in an object. -/
def member? (name : String) : Json → Option Json
  | object members => (members.find? fun (key, _) => key == some name).map (·.2)
  | _ => none

end Json

end MetaLedger
