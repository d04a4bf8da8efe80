import MetaLedger.Store.Task

/-!
# What stores are for

The map that a ledger with its stores stands for: a record under a namespace and a key, with an owner
who alone may change it. `after` is what a command makes of the map, and `Answers` what its caller is
told. Nothing here knows of addresses, nonces, transactions or blocks.
-/

namespace MetaLedger.Store

abbrev Contents := Bytes → Bytes → Option Record

/-- What a store can be asked for. -/
inductive Command where
  | get (ns key : Bytes)
  | set (ns key data : Bytes)
  | delete (ns key : Bytes)
  | update (ns key : Bytes) (transform : Transform)
  | listKeys (ns : Bytes)

namespace Command

def operation : Command → Operation
  | get .. => .get
  | set .. => .set
  | delete .. => .delete
  | update .. => .update
  | listKeys _ => .listKeys

def start (s : Store) : Command → Progress
  | get ns key => s.get ns key
  | set ns key data => s.set ns key data
  | delete ns key => s.delete ns key
  | update ns key transform => s.update ns key transform
  | listKeys ns => s.listKeys ns

/-- Namespaces, keys and values are short enough to be written with their lengths. -/
def Short (m : Contents) : Command → Prop
  | get ns key | delete ns key => ns.length < UInt32.size ∧ key.length < UInt32.size
  | set ns key data =>
    ns.length < UInt32.size ∧ key.length < UInt32.size ∧ data.length < UInt32.size
  | update ns key transform =>
    ns.length < UInt32.size ∧ key.length < UInt32.size ∧
      ∀ record data, m ns key = some record → transform record.data = .ok data →
        data.length < UInt32.size
  | listKeys ns => ns.length < UInt32.size

end Command

namespace Contents

def empty : Contents := fun _ _ => none

/-- Puts a record, or none, under a namespace and key. -/
def put (m : Contents) (ns key : Bytes) (record : Option Record) : Contents := fun n k =>
  if n = ns ∧ k = key then record else m n k

/-- The record is there and someone else's. -/
def isForeign (m : Contents) (account : AccountId) (ns key : Bytes) : Bool :=
  match m ns key with
  | some record => record.owner ≠ account
  | none => false

/-- Puts a record, or none, where no one else's is. -/
def change (m : Contents) (account : AccountId) (ns key : Bytes) (record : Option Record) :
    Contents :=
  if m.isForeign account ns key then m else m.put ns key record

/-- What a command of an account makes of the records. -/
def after (m : Contents) (account : AccountId) : Command → Contents
  | .get .. | .listKeys _ => m
  | .set ns key data => m.change account ns key (some ⟨data, account⟩)
  | .delete ns key => m.change account ns key none
  | .update ns key transform =>
    match m ns key with
    | none => m
    | some record =>
      match transform record.data with
      | .error _ => m
      | .ok data => m.change account ns key (some ⟨data, account⟩)

/-- What the caller of a write is told. Who does not wait for the block is not told of a refusal. -/
def verdict (m : Contents) (account : AccountId) (mode : SubmissionMode) (op : Operation)
    (ns key : Bytes) (block : BlockHash) : Except Error Output :=
  if mode = .inBlock ∧ m.isForeign account ns key = true then
    failAt op .awaitInclusion (.dispatch block .noPermissions)
  else .ok .done

/-- What the caller of a command is told: the keys it is handed, and the result. A refusal names the
block of the transaction. -/
def Answers (m : Contents) (account : AccountId) (mode : SubmissionMode) (block : BlockHash)
    (command : Command) (delivered : List Bytes) (result : Except Error Output) : Prop :=
  match command with
  | .get ns key =>
    delivered = [] ∧
      result = match m ns key with
        | some record => .ok (.value record.data)
        | none => failAt .get .queryState .notFound
  | .set ns key _ => delivered = [] ∧ result = m.verdict account mode .set ns key block
  | .delete ns key => delivered = [] ∧ result = m.verdict account mode .delete ns key block
  | .update ns key transform =>
    delivered = [] ∧
      result = match m ns key with
        | none => failAt .update .queryState .notFound
        | some record =>
          match transform record.data with
          | .error e => .error (e.during .update .transform)
          | .ok _ => m.verdict account mode .update ns key block
  | .listKeys ns =>
    (∀ key, key ∈ delivered ↔ (m ns key).isSome) ∧
      delivered.Pairwise (fun k l => Scale.encodeBytes k < Scale.encodeBytes l) ∧
      result = .ok .done

/-! ## Changing records -/

section Put

variable {m : Contents} {ns key : Bytes} {record : Option Record}

theorem put_self : m.put ns key record ns key = record := if_pos ⟨rfl, rfl⟩

theorem put_of_ne {n k : Bytes} (h : ¬(n = ns ∧ k = key)) : m.put ns key record n k = m n k :=
  if_neg h

theorem put_none (h : m ns key = none) : m.put ns key none = m := by
  funext n k
  by_cases same : n = ns ∧ k = key
  · obtain ⟨rfl, rfl⟩ := same
    rw [put_self, h]
  · exact put_of_ne same

end Put

end Contents

end MetaLedger.Store
