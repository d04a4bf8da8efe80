import MetaLedger.Failure
import MetaLedger.Scale.Sequence

/-!
# Calls of the metadata module

A call names a record by namespace and key, and carries the new data unless it removes the record.
On the wire its arguments follow the two bytes of its position in the runtime. Arguments are read
only as a whole, and by the kind of the call: set and update look alike, delete is shorter.
-/

namespace MetaLedger

/-- A call of the metadata module. -/
inductive Call where
  | set (ns key data : Bytes)
  | delete (ns key : Bytes)
  | update (ns key data : Bytes)
deriving DecidableEq

/-- A call as bytes: its position in the runtime, and its arguments. -/
structure EncodedCall where
  raw : Bytes
deriving DecidableEq

namespace EncodedCall

/-- The call's position, if there are bytes enough for one. -/
def index? (c : EncodedCall) : Option CallIndex :=
  match c.raw with
  | pallet :: call :: _ => some ⟨pallet, call⟩
  | _ => none

def arguments (c : EncodedCall) : Bytes := c.raw.drop 2

/-- The position and the size of the arguments, for diagnostics. -/
def label (c : EncodedCall) : String :=
  let position :=
    match c.index? with
    | some i =>
      "Some(CallIndex \x7b pallet: " ++ toString i.pallet ++ ", call: " ++ toString i.call ++ " \x7d)"
    | none => "None"
  "EncodedCall(" ++ position ++ ", " ++ toString c.arguments.length ++ " arg bytes)"

end EncodedCall

namespace Call

def kind : Call → CallKind
  | set .. => .set
  | delete .. => .delete
  | update .. => .update

def ns : Call → Bytes
  | set ns _ _ => ns
  | delete ns _ => ns
  | update ns _ _ => ns

def key : Call → Bytes
  | set _ key _ => key
  | delete _ key => key
  | update _ key _ => key

/-- The arguments in their order, each behind its length. -/
def encodeArguments : Call → Bytes
  | set ns key data | update ns key data =>
    Scale.encodeBytes ns ++ Scale.encodeBytes key ++ Scale.encodeBytes data
  | delete ns key => Scale.encodeBytes ns ++ Scale.encodeBytes key

def arguments : CallKind → Scale.Reader Call
  | .set => do return set (← Scale.bytes) (← Scale.bytes) (← Scale.bytes)
  | .delete => do return delete (← Scale.bytes) (← Scale.bytes)
  | .update => do return update (← Scale.bytes) (← Scale.bytes) (← Scale.bytes)

/-- Reads the arguments of a call of a kind; they span the whole input. -/
def decodeArguments (kind : CallKind) (input : Bytes) : Except Failure Call :=
  match arguments kind input with
  | .error e => .error (.codec e)
  | .ok (call, rest) =>
    if rest.isEmpty then .ok call else .error (.decoding (.afterArguments rest.length kind))

/-- The call at a position. -/
def encodeAt (c : Call) (index : CallIndex) : EncodedCall :=
  ⟨index.pallet :: index.call :: c.encodeArguments⟩

end Call

end MetaLedger
