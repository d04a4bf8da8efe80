import MetaLedger.Store.Basic

/-!
# Connecting

A store is connected by asking the node for its schema, genesis and versions, and looking the names of
the layout up in the schema. The configuration is checked before the node is asked anything. A store
can also be made of a session that is there already; nothing is checked then.
-/

namespace MetaLedger.Store

/-- What a connection waits for, with what it knows so far. -/
inductive Connecting where
  | schema
  | genesis (schema : RuntimeSchema)
  | version (schema : RuntimeSchema) (genesis : BlockHash)

namespace Connecting

/-- Where a connection stands. -/
inductive Progress where
  | running (next : Connecting)
  | ended (result : Except Error Session)

/-- The request whose reply a connection waits for. -/
abbrev request : Connecting → Node.Request
  | schema => .runtimeSchema
  | genesis _ => .genesisHash
  | version .. => .runtimeVersion

/-- Goes on with the reply. -/
def resume (layout : Layout) : (c : Connecting) → c.request.Reply → Progress
  | schema, reply =>
    match reply with
    | .ok found => .running (genesis found)
    | .error e => .ended (failAt .connect .fetchSchema (.chainQuery e))
  | genesis found, reply =>
    match reply with
    | .ok hash => .running (version found hash)
    | .error e => .ended (failAt .connect .fetchGenesis (.chainQuery e))
  | version found hash, reply =>
    match reply with
    | .ok v =>
      .ended ((Session.ofParts found ⟨hash, v⟩ layout).mapError (·.during .connect .resolveSchema))
    | .error e => .ended (failAt .connect .fetchRuntimeVersion (.chainQuery e))

/-- Sets out to connect, if the configuration has a meaning. -/
def start (config : Config) : Progress :=
  match config.validate with
  | .ok _ => .running schema
  | .error e => .ended (.error (e.during .connect .validateConfig))

end Connecting

/-- The store over a session that is there already. -/
def withSession (signer : Signer) (config : Config) (session : Session) : Store :=
  ⟨signer, config, some session⟩

end MetaLedger.Store
