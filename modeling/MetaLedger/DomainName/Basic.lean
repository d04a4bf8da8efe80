import MetaLedger.DomainName.Direction
import MetaLedger.DomainName.Joining
import MetaLedger.DomainName.Mapping
import MetaLedger.DomainName.Punycode

/-!
# Domain names

The name that a text stands for: its characters are mapped, marks are composed with their letters, and
labels that were written in plain characters are read. A label is refused if its characters are, if it
begins with a mark, or if it could be taken for another one; reading what has been read changes
nothing, so each name has one text.
-/

namespace MetaLedger.DomainName

/-- Plain characters that no domain name in a URL holds. -/
def isForbidden (c : Char) : Bool :=
  c ≤ ' ' || c = '\x7f'
    || ['#', '%', '/', ':', '<', '>', '?', '@', '[', '\\', ']', '^', '|'].contains c

/-- The most characters of a label that is not in plain characters. -/
def maxLabel : Nat := 1000

/-- The most plain characters that a label is read from. -/
def maxCoded : Nat := 2000

/-- What a label in plain characters begins with. -/
def codedMark : List Char := ['x', 'n', '-', '-']

/-- A label that stands for itself. -/
def isSound (label : List Char) : Bool :=
  !label.any isForbidden && !label.head?.any isMark && joinersShow [] label
    && (arePlain label || label.length ≤ maxLabel)

/-- The label that one in plain characters stands for. It must not be written in plain characters
itself, and mapping it must change nothing. -/
def decodeLabel? (coded : List Char) : Option (List Char) := do
  if maxCoded < coded.length then none
  else
    let label ← Punycode.decode? coded
    if arePlain label || mapped? label ≠ some label || label.contains '.'
        || codedMark.isPrefixOf label || composed label ≠ label then none
    else some label

/-- The label that a mapped one stands for, if it may be used. -/
def label? (label : List Char) : Option (List Char) :=
  let meant? := if codedMark.isPrefixOf label then decodeLabel? (label.drop codedMark.length)
    else some label
  meant?.filter isSound

/-- The labels of the domain name that a text stands for. -/
def labels? (text : List Char) : Option (List (List Char)) := do
  let mapped ← mapped? text
  let labels ← (Text.parts '.' (composed mapped)).mapM label?
  if areInOneDirection labels then some labels else none

end MetaLedger.DomainName
