/-!
# Why bytes do not decode

The causes that the readers of this folder report, and their wording. A cause inside a field of a
record is shown under the field's name, one tab further in for each level.
-/

namespace MetaLedger.Scale

/-- The integer widths that are written in compact form. -/
inductive Width where
  | u32
  | u128
deriving DecidableEq

namespace Width

/-- The width in bytes. -/
def bytes : Width → Nat
  | u32 => 4
  | u128 => 16

def name : Width → String
  | u32 => "u32"
  | u128 => "u128"

end Width

/-- Why bytes do not decode. -/
inductive Error where
  | notEnoughData
  /-- A byte sequence announces more bytes than follow. -/
  | sequenceTooShort
  /-- A compact integer not in its shortest form, or above its width. -/
  | compactRange (width : Width)
  /-- A compact integer that announces more bytes than its width has. -/
  | compactPrefix (width : Width)
  | trailingData
  /-- No alternative of the type has this number. -/
  | unknownVariant (type : String)
  /-- The number of the alternative is missing. -/
  | variantByte (type : String) (cause : Error)
  | field (path : String) (cause : Error)
  | invalidText
  | invalidTag (type : String)
deriving DecidableEq

namespace Error

/-- The wording of a cause that stands `depth` levels inside another one. -/
def messageAt (depth : Nat) : Error → String
  | notEnoughData => line depth "Not enough data to fill buffer"
  | sequenceTooShort => line depth "Not enough data to decode vector"
  | compactRange width => line depth ("out of range decoding Compact<" ++ width.name ++ ">")
  | compactPrefix width => line depth ("unexpected prefix decoding Compact<" ++ width.name ++ ">")
  | trailingData => line depth "Input buffer has still data left after decoding!"
  | unknownVariant type =>
    line depth ("Could not decode \x60" ++ type ++ "\x60, variant doesn't exist")
  | variantByte type cause =>
    tabs depth ++ "Could not decode \x60" ++ type ++ "\x60, failed to read variant byte:\n"
      ++ messageAt (depth + 1) cause
  | field path cause =>
    tabs depth ++ "Could not decode \x60" ++ path ++ "\x60:\n" ++ messageAt (depth + 1) cause
  | invalidText => line depth "Invalid utf8 sequence"
  | invalidTag type => line depth ("Invalid " ++ type ++ " representation")
where
  tabs (depth : Nat) : String := String.ofList (List.replicate depth '\t')
  line (depth : Nat) (text : String) : String :=
    tabs depth ++ text ++ (if depth = 0 then "" else "\n")

/-- The wording of a cause. -/
def message (e : Error) : String := messageAt 0 e

end Error

end MetaLedger.Scale
