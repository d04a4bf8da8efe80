import MetaLedger.Json.Value
import MetaLedger.Text.Quoted

/-!
# Writing JSON text

The compact form: no blanks, members in the order they stand in, and in texts only quotes,
backslashes and control characters escaped.
-/

namespace MetaLedger.Json

/-- A character inside a text. -/
def writeChar (out : String) (c : Char) : String :=
  if c = '"' then out ++ "\\\""
  else if c = '\\' then out ++ "\\\\"
  else if c = '\x08' then out ++ "\\b"
  else if c = '\x0c' then out ++ "\\f"
  else if c = '\n' then out ++ "\\n"
  else if c = '\r' then out ++ "\\r"
  else if c = '\t' then out ++ "\\t"
  else if c.toNat < 32 then
    out ++ (if c.toNat < 16 then "\\u000" else "\\u00") ++ Text.hexNumber c.toNat
  else out.push c

def writeText (out : String) (s : String) : String :=
  (s.foldl writeChar (out.push '"')).push '"'

def writeNumber : Number → String
  | .natural n => toString n
  | .negative n => "-" ++ toString n
  | .real bits => Decimal.text bits
  | .beyondRange => "null"

mutual

/-- Appends the text of a value. -/
def writeTo (out : String) : Json → String
  | null => out ++ "null"
  | bool value => out ++ (if value then "true" else "false")
  | number value => out ++ writeNumber value
  | text value => writeText out (value.getD "")
  | array items => (writeItems (out.push '[') true items).push ']'
  | object members => (writeMembers (out.push '\x7b') true members).push '\x7d'

def writeItems (out : String) (first : Bool) : List Json → String
  | [] => out
  | item :: rest => writeItems (writeTo (if first then out else out.push ',') item) false rest

def writeMembers (out : String) (first : Bool) : List (Option String × Json) → String
  | [] => out
  | (name, value) :: rest =>
    let out := writeText (if first then out else out.push ',') (name.getD "")
    writeMembers (writeTo (out.push ':') value) false rest

end

/-- The compact text of a value. -/
def write (value : Json) : String := writeTo "" value

end MetaLedger.Json
