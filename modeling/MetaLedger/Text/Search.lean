/-!
# Searching texts

Whether a text holds another one, the parts of a text, and a text with its capital letters lowered.
Only the letters from A to Z are lowered: what is searched for is made of small ones, and no other
capital is lowered to a letter that could complete such a word.
-/

namespace MetaLedger.Text

/-- The characters of `part` stand somewhere in a row. -/
def isPartOf (part : List Char) : List Char → Bool
  | [] => part.isEmpty
  | c :: rest => part.isPrefixOf (c :: rest) || isPartOf part rest

/-- The text `part` occurs in `s`. -/
def occursIn (part s : String) : Bool := isPartOf part.toList s.toList

/-- The parts between the occurrences of a character, one more than there are of those. -/
def parts (separator : Char) : List Char → List (List Char)
  | [] => [[]]
  | c :: rest =>
    if c = separator then [] :: parts separator rest
    else
      match parts separator rest with
      | [] => [[c]]
      | first :: others => (c :: first) :: others

/-- The text with its capital letters lowered. -/
def lower (s : String) : String := String.ofList (s.toList.map Char.toLower)

end MetaLedger.Text
