import MetaLedger.Node.Error
import MetaLedger.Text.Search

/-!
# Recognising a pool's refusal

A remote node says in words why its pool refused a transaction. The reason is found by what the words
hold, capital or small; the first mark that is found decides. A message that may be about anything
has to name a refusal first, by its number or by its fixed words.
-/

namespace MetaLedger.Remote

/-- The marks of the reasons, in the order in which they are looked for. -/
def marks : List (Node.Rejection × List String) :=
  [(.stale, ["outdated", "stale"]), (.future, ["future"]),
    (.badProof, ["bad signature", "badproof"]), (.payment, ["pay"]),
    (.malformed, ["decode", "call"])]

/-- A text holds one of some words. -/
def holdsOne (words : List String) (text : String) : Bool :=
  words.any (Text.occursIn · text)

/-- The reason that the details of a refusal give, in small letters. -/
def reasonIn? (details : String) : Option Node.Rejection :=
  (marks.find? fun (_, words) => holdsOne words details).map (·.1)

/-- The reason that a message gives, if it is about a refusal. -/
def reasonOfMessage? (message : String) : Option Node.Rejection :=
  let message := Text.lower message
  if holdsOne ["1014", "priority is too low"] message then some .priorityTooLow
  else if holdsOne ["1010", "invalid transaction"] message then reasonIn? message
  else none

/-- What a message of the subscription means: a refusal, or a failure on the way. -/
def errorOfMessage (message : String) : Node.Error :=
  match reasonOfMessage? message with
  | some reason => .rejected reason
  | none => .transport (.reported message)

end MetaLedger.Remote
