/-!
# Plain characters

The first 128 characters, in which every domain name can be written. They are known without a
table: none is a mark, is made of others, or belongs to a script that runs from right to left.
-/

namespace MetaLedger.DomainName

/-- The character is a plain one. -/
def isPlain (c : Char) : Bool := c.toNat < 128

/-- All characters are plain ones. -/
def arePlain (text : List Char) : Bool := text.all isPlain

end MetaLedger.DomainName
