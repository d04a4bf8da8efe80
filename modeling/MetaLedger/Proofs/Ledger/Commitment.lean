import MetaLedger.Proofs.Ledger.Answers
import MetaLedger.Proofs.Ledger.Effects
import MetaLedger.Proofs.Ledger.Quiet

/-!
# The head stands for the chain

The hash of a block is over the block before, its number and its transactions, without a count: parent
and number have their lengths, and what is left is cut into hashes of 32 bytes (`Block.preimage_inj`). So
as long as no two blocks collide, and none has the hash of the genesis block, the head tells the block,
this one its parent, and so on down (`Linked.agree`).

A ledger that nobody has funded has nothing but its blocks to come from (`Lineage.replay`). A hash that
stands for one transaction only thus makes the head stand for all entries and events, too
(`Lineage.run_committed`). How the transactions came into the blocks does not matter: the modes, the
pools and the histories of the two ledgers may differ.
-/

namespace MetaLedger

theorem BlockHash.length_bytes (h : BlockHash) : h.bytes.length = 32 := h.raw.length_eq

theorem BlockHash.bytes_inj {h k : BlockHash} (heq : h.bytes = k.bytes) : h = k :=
  congrArg BlockHash.mk (Fixed.ext heq)

namespace TxHash

theorem length_bytes (tx : TxHash) : tx.bytes.length = 32 := tx.raw.length_eq

theorem bytes_inj {tx other : TxHash} (h : tx.bytes = other.bytes) : tx = other :=
  congrArg TxHash.mk (Fixed.ext h)

theorem flatMap_bytes_ne_nil (tx : TxHash) (rest : List TxHash) :
    (tx :: rest).flatMap bytes ≠ [] := by
  intro h
  have hlength := congrArg List.length h
  rw [List.flatMap_cons, List.length_append, length_bytes, List.length_nil] at hlength
  omega

/-- Transactions are told apart in a row of their hashes. -/
theorem flatMap_bytes_inj {txs others : List TxHash}
    (h : txs.flatMap bytes = others.flatMap bytes) : txs = others := by
  induction txs generalizing others with
  | nil =>
    cases others with
    | nil => rfl
    | cons other rest => exact absurd h.symm (flatMap_bytes_ne_nil other rest)
  | cons tx txs ih =>
    cases others with
    | nil => exact absurd h (flatMap_bytes_ne_nil tx txs)
    | cons other rest =>
      rw [List.flatMap_cons, List.flatMap_cons] at h
      obtain ⟨hfirst, hrest⟩ :=
        List.append_inj h (tx.length_bytes.trans other.length_bytes.symm)
      rw [bytes_inj hfirst, ih hrest]

end TxHash

namespace Ledger

/-! ## Blocks -/

/-- A block: the hash that it was given, and what the hash is over. -/
structure Block where
  hash : BlockHash
  parent : BlockHash
  number : Nat
  entries : List PoolEntry
deriving DecidableEq

namespace Block

def txs (b : Block) : List TxHash := b.entries.map PoolEntry.hash

/-- What the hash is taken of. -/
def preimage (b : Block) : Bytes :=
  b.parent.bytes ++ Bytes.ofNatLE 8 b.number ++ b.txs.flatMap TxHash.bytes

theorem preimage_inj {b c : Block} (h : b.preimage = c.preimage) :
    b.parent = c.parent ∧ b.txs = c.txs := by
  have hparents : b.parent.bytes.length = c.parent.bytes.length :=
    b.parent.length_bytes.trans c.parent.length_bytes.symm
  unfold preimage at h
  rw [List.append_assoc, List.append_assoc] at h
  obtain ⟨hparent, hrest⟩ := List.append_inj h hparents
  have hnumbers : (Bytes.ofNatLE 8 b.number).length = (Bytes.ofNatLE 8 c.number).length := by
    rw [Bytes.length_ofNatLE, Bytes.length_ofNatLE]
  exact ⟨BlockHash.bytes_inj hparent, TxHash.flatMap_bytes_inj (List.append_inj hrest hnumbers).2⟩

/-- The blocks are at the same height, and have the same hash, parent and transactions. -/
structure Same (b c : Block) : Prop where
  number : b.number = c.number
  hash : b.hash = c.hash
  parent : b.parent = c.parent
  txs : b.txs = c.txs

end Block

/-- The blocks, latest first, lead from the genesis block to the head. -/
def Linked (genesis : BlockHash) : List Block → BlockHash → Prop
  | [], head => head = genesis
  | b :: earlier, head => head = b.hash ∧ b.hash = ⟨Digest.blake3 b.preimage⟩ ∧
      b.number = earlier.length + 1 ∧ Linked genesis earlier b.parent

/-- No two of the blocks collide, and none has the hash of the genesis block. -/
structure NoCollision (genesis : BlockHash) (blocks : List Block) : Prop where
  preimages : ∀ b ∈ blocks, ∀ c ∈ blocks,
    Digest.blake3 b.preimage = Digest.blake3 c.preimage → b.preimage = c.preimage
  genesis : ∀ b ∈ blocks, b.hash ≠ genesis

/-- A head leads back to one chain only. -/
theorem Linked.agree {genesis head : BlockHash} {blocks others : List Block}
    (h : Linked genesis blocks head) (k : Linked genesis others head)
    (free : NoCollision genesis (blocks ++ others)) : List.Forall₂ Block.Same blocks others := by
  induction blocks generalizing head others with
  | nil =>
    cases others with
    | nil => exact .nil
    | cons c others =>
      obtain ⟨hhead, -⟩ := k
      exact absurd (hhead.symm.trans h) (free.genesis c (by simp))
  | cons b blocks ih =>
    obtain ⟨hhead, hhash, hnumber, hlinked⟩ := h
    cases others with
    | nil => exact absurd (hhead.symm.trans k) (free.genesis b (by simp))
    | cons c others =>
      obtain ⟨khead, khash, knumber, klinked⟩ := k
      have hsame : b.hash = c.hash := hhead.symm.trans khead
      have hdigest : Digest.blake3 b.preimage = Digest.blake3 c.preimage :=
        congrArg BlockHash.raw (hhash.symm.trans (hsame.trans khash))
      obtain ⟨hparent, htxs⟩ :=
        Block.preimage_inj (free.preimages b (by simp) c (by simp) hdigest)
      have hsublist : (blocks ++ others).Sublist ((b :: blocks) ++ (c :: others)) :=
        (List.sublist_cons_self b blocks).append (List.sublist_cons_self c others)
      have hearlier := ih hlinked (hparent ▸ klinked)
        ⟨fun x hx y hy => free.preimages x (hsublist.subset hx) y (hsublist.subset hy),
          fun x hx => free.genesis x (hsublist.subset hx)⟩
      refine .cons ⟨?_, hsame, hparent, htxs⟩ hearlier
      rw [hnumber, knumber, hearlier.length_eq]

/-! ## What an operation adds -/

/-- The transaction is filed under its hash, with the call that it reads as. -/
structure PoolEntry.Faithful (r : Rules) (e : PoolEntry) : Prop where
  hash_eq : e.hash = e.extrinsic.hash
  call_eq : r.call? e.extrinsic.call = some e.call

/-- What is filed under one hash in two pools is one entry, if calls read alike. -/
theorem PoolEntry.Faithful.eq {r q : Rules} {e f : PoolEntry} (he : e.Faithful r)
    (hf : f.Faithful q) (indices : r.indices = q.indices) (h : e.extrinsic = f.extrinsic) :
    e = f := by
  have hread : r.call? e.extrinsic.call = q.call? f.extrinsic.call := by
    unfold Rules.call?
    rw [indices, h]
  have hcall : e.call = f.call :=
    Option.some.inj (he.call_eq.symm.trans (hread.trans hf.call_eq))
  have hhash : e.hash = f.hash := by
    rw [he.hash_eq, hf.hash_eq, h]
  cases e
  cases f
  cases hhash
  cases h
  cases hcall
  rfl

namespace State

variable {r : Rules} {s t : State} {op : Op} {accepted : List Extrinsic} {executed : List PoolEntry}

/-- Whoever is in the pool has been there before, or is filed as is right. -/
def Admits (r : Rules) (s : State) (pool : List PoolEntry) : Prop :=
  ∀ e ∈ pool, e ∈ s.ready ++ s.future ∨ e.Faithful r

/-- No block is sealed. -/
structure Still (r : Rules) (s : State) (op : Op) (t : State) : Prop where
  number : t.number = s.number
  head : t.head = s.head
  events : t.events = s.events
  best : (∀ account free, op ≠ .fund account free) → t.best = s.best
  pool : s.Admits r (t.ready ++ t.future)

/-- The transactions are put into a block on top of the head. -/
structure Extends (r : Rules) (s : State) (entries : List PoolEntry) (t : State) : Prop where
  number : t.number = s.number + 1
  head : t.head = blockHash s.head (s.number + 1) (entries.map PoolEntry.hash)
  events : t.events = s.events ++
    (r.executeAll s.best entries).2.map fun tx => ⟨s.number + 1, tx.hash, tx.event⟩
  best : t.best = (r.executeAll s.best entries).1
  entries : s.Admits r entries
  pool : s.Admits r (t.ready ++ t.future)

theorem Valid.admits_accept {x : Extrinsic} {call : Call} {placement : Placement}
    (h : s.Valid r x call placement) (watched : Bool) :
    s.Admits r ((s.accept r x watched call placement).ready ++
      (s.accept r x watched call placement).future) := by
  intro e he
  rcases List.mem_append.1 ((accept_perm r x watched call placement s).mem_iff.1 he) with he | he
  · exact .inl he
  · obtain rfl := List.mem_singleton.1 he
    exact .inr ⟨rfl, h.call_eq⟩

theorem sealBlock_extends (r : Rules) (s : State) : Extends r s s.ready (s.sealBlock r) where
  number := sealBlock_number r s
  head := (sealBlock_head r s).trans (withBlock_head r s)
  events := sealBlock_events r s
  best := sealBlock_best r s
  entries := fun _ he => .inl (List.mem_append_left _ he)
  pool := fun _ he => .inl (List.mem_append_right _ ((sealBlock_perm r s).mem_iff.1 he))

theorem Effect.still_or_extends (h : Effect r s op accepted executed t) :
    Still r s op t ∨ Extends r s executed t := by
  have hkeep : s.Admits r (s.ready ++ s.future) := fun _ he => .inl he
  cases h with
  | nothing => exact .inl ⟨rfl, rfl, rfl, fun _ => rfl, hkeep⟩
  | queued _ hvalid =>
    exact .inl ⟨accept_number .., accept_head .., accept_events .., fun _ => accept_best ..,
      hvalid.admits_accept _⟩
  | @included x watched call placement _ hvalid =>
    have hblock := sealBlock_extends r (s.accept r x watched call placement)
    have hpool := hvalid.admits_accept watched
    refine .inr ⟨?_, ?_, ?_, ?_, fun e he => hpool e (List.mem_append_left _ he), ?_⟩
    · rw [hblock.number, accept_number]
    · rw [hblock.head, accept_head, accept_number]
    · rw [hblock.events, accept_events, accept_best, accept_number]
    · rw [hblock.best, accept_best]
    · intro e he
      rcases hblock.pool e he with he | he
      · exact hpool e he
      · exact .inr he
  | sealed => exact .inr (sealBlock_extends r s)
  | funded account free =>
    exact .inl ⟨rfl, rfl, rfl, fun hop => absurd rfl (hop account free), hkeep⟩
  | closed hopen =>
    unfold State.close
    rw [hopen]
    exact .inl ⟨rfl, rfl, rfl, fun _ => rfl, nofun⟩

end State

/-! ## Runs with their blocks -/

/-- A run of a ledger with the blocks that it sealed. -/
structure Lineage where
  state : State
  /-- Latest first. -/
  blocks : List Block := []

namespace Lineage

variable {r : Rules} {h : Lineage}

/-- A block is there when the number has changed. -/
def step (r : Rules) (h : Lineage) (op : Op) : Lineage :=
  let next := h.state.step r op
  if next.number = h.state.number then { h with state := next }
  else ⟨next, ⟨next.head, h.state.head, next.number, h.state.executes r op⟩ :: h.blocks⟩

def run (r : Rules) (h : Lineage) (ops : List Op) : Lineage := ops.foldl (step r) h

def initial (r : Rules) : Lineage := { state := State.initial r }

theorem step_state (r : Rules) (h : Lineage) (op : Op) :
    (h.step r op).state = h.state.step r op := by
  unfold step
  dsimp only
  split <;> rfl

theorem run_state (r : Rules) (h : Lineage) (ops : List Op) :
    (h.run r ops).state = h.state.run r ops := by
  induction ops generalizing h with
  | nil => rfl
  | cons op ops ih =>
    show ((h.step r op).run r ops).state = (h.state.step r op).run r ops
    rw [ih, step_state]

/-- The entries and events that the blocks lead to, from nothing. -/
def replay (r : Rules) : List Block → Entries × List LoggedEvent
  | [] => (.empty, [])
  | b :: earlier =>
    let (entries, events) := replay r earlier
    let (entries, executed) := r.executeAll entries b.entries
    (entries, events ++ executed.map fun tx => ⟨b.number, tx.hash, tx.event⟩)

/-- The blocks are what the ledger says of its chain. -/
structure Grown (r : Rules) (h : Lineage) : Prop where
  number : h.state.number = h.blocks.length
  linked : Linked r.genesis h.blocks h.state.head
  /-- The log has one event for each transaction of a block, in their order. -/
  logged : h.state.events.map (fun e => (e.block, e.tx)) =
    h.blocks.reverse.flatMap fun b => b.txs.map (b.number, ·)
  entries : ∀ b ∈ h.blocks, ∀ e ∈ b.entries, e.Faithful r
  pool : ∀ e ∈ h.state.ready ++ h.state.future, e.Faithful r

theorem Grown.initial (r : Rules) : Grown r (Lineage.initial r) := ⟨rfl, rfl, rfl, nofun, nofun⟩

/-- An operation seals no block, or one that is noted. -/
theorem step_cases (r : Rules) (h : Lineage) (op : Op) :
    State.Still r h.state op (h.state.step r op) ∧
      h.step r op = { h with state := h.state.step r op } ∨
    ∃ b : Block, b.parent = h.state.head ∧ b.number = h.state.number + 1 ∧
      b.hash = ⟨Digest.blake3 b.preimage⟩ ∧
      State.Extends r h.state b.entries (h.state.step r op) ∧
      h.step r op = ⟨h.state.step r op, b :: h.blocks⟩ := by
  rcases (State.effect_step r h.state op).still_or_extends with hstill | hextends
  · exact .inl ⟨hstill, if_pos hstill.number⟩
  · have hne : (h.state.step r op).number ≠ h.state.number := by
      rw [hextends.number]
      exact Nat.succ_ne_self _
    refine .inr ⟨⟨(h.state.step r op).head, h.state.head, h.state.number + 1, h.state.executes r op⟩,
      rfl, rfl, hextends.head, hextends, ?_⟩
    rw [← hextends.number]
    exact if_neg hne

theorem Grown.step (hgrown : Grown r h) (op : Op) : Grown r (h.step r op) := by
  have hfaithful : ∀ pool, h.state.Admits r pool → ∀ e ∈ pool, e.Faithful r := by
    intro pool hpool e he
    exact (hpool e he).elim (hgrown.pool e) id
  rcases step_cases r h op with ⟨hstill, heq⟩ | ⟨b, hparent, hnumber, hhash, hextends, heq⟩
  · rw [heq]
    refine ⟨?_, ?_, ?_, hgrown.entries, hfaithful _ hstill.pool⟩
    · rw [hstill.number]
      exact hgrown.number
    · rw [hstill.head]
      exact hgrown.linked
    · rw [hstill.events]
      exact hgrown.logged
  · rw [heq]
    refine ⟨?_, ⟨?_, hhash, ?_, ?_⟩, ?_, ?_, hfaithful _ hextends.pool⟩
    · rw [hextends.number, hgrown.number]
      rfl
    · rw [hextends.head, hhash, Block.preimage, hparent, hnumber]
      rfl
    · rw [hnumber, hgrown.number]
    · rw [hparent]
      exact hgrown.linked
    · have htxs := r.executeAll_hash h.state.best b.entries
      rw [hextends.events, List.map_append, hgrown.logged, List.reverse_cons, List.flatMap_append,
        List.flatMap_singleton, Block.txs, ← htxs, List.map_map, List.map_map, hnumber]
      rfl
    · intro c hc
      rcases List.mem_cons.1 hc with rfl | hc
      · exact hfaithful _ hextends.entries
      · exact hgrown.entries c hc

theorem Grown.run (hgrown : Grown r h) (ops : List Op) : Grown r (h.run r ops) := by
  induction ops generalizing h with
  | nil => exact hgrown
  | cons op ops ih => exact ih (hgrown.step op)

/-- As long as nobody is funded, the entries and events are those that the blocks lead to. -/
theorem replay_run (hreplay : (h.state.best, h.state.events) = replay r h.blocks) {ops : List Op}
    (unfunded : ∀ account free, Op.fund account free ∉ ops) :
    ((h.run r ops).state.best, (h.run r ops).state.events) = replay r (h.run r ops).blocks := by
  induction ops generalizing h with
  | nil => exact hreplay
  | cons op ops ih =>
    have hop : ∀ account free, op ≠ .fund account free := fun account free heq =>
      unfunded account free (heq ▸ List.mem_cons_self)
    refine ih (h := h.step r op) ?_ fun account free hmem =>
      unfunded account free (List.mem_cons_of_mem _ hmem)
    rcases step_cases r h op with ⟨hstill, heq⟩ | ⟨b, -, hnumber, -, hextends, heq⟩
    · rw [heq, hstill.best hop, hstill.events]
      exact hreplay
    · rw [heq, hextends.best, hextends.events]
      simp only [replay, ← hreplay, hnumber]

/-! ## Two ledgers -/

/-- Transactions are known by their hashes. -/
def KnownByHash (txs : List PoolEntry) : Prop :=
  ∀ e ∈ txs, ∀ f ∈ txs, e.extrinsic.hash = f.extrinsic.hash → e.extrinsic = f.extrinsic

theorem KnownByHash.mono {txs others : List PoolEntry} (h : KnownByHash txs) (hsub : others ⊆ txs) :
    KnownByHash others := fun e he f hf => h e (hsub he) f (hsub hf)

section Two

variable {q : Rules} (indices : r.indices = q.indices)

include indices

theorem entries_eq {txs others : List PoolEntry} (known : KnownByHash (txs ++ others))
    (htxs : ∀ e ∈ txs, e.Faithful r) (hothers : ∀ e ∈ others, e.Faithful q)
    (h : txs.map PoolEntry.hash = others.map PoolEntry.hash) : txs = others := by
  induction txs generalizing others with
  | nil => exact (List.map_eq_nil_iff.1 h.symm).symm
  | cons e txs ih =>
    cases others with
    | nil => cases h
    | cons f others =>
      obtain ⟨hhash, hrest⟩ := List.cons.inj h
      obtain ⟨he, htxs⟩ := List.forall_mem_cons.1 htxs
      obtain ⟨hf, hothers⟩ := List.forall_mem_cons.1 hothers
      have hextrinsic : e.extrinsic = f.extrinsic :=
        known e (by simp) f (by simp) (he.hash_eq.symm.trans (hhash.trans hf.hash_eq))
      have hsub : txs ++ others ⊆ (e :: txs) ++ (f :: others) :=
        ((List.sublist_cons_self e txs).append (List.sublist_cons_self f others)).subset
      rw [he.eq hf indices hextrinsic, ih (known.mono hsub) htxs hothers hrest]

/-- Blocks with the same hashes are the same, if transactions are known by theirs. -/
theorem blocks_eq {blocks others : List Block} (h : List.Forall₂ Block.Same blocks others)
    (known : KnownByHash ((blocks ++ others).flatMap Block.entries))
    (hblocks : ∀ b ∈ blocks, ∀ e ∈ b.entries, e.Faithful r)
    (hothers : ∀ c ∈ others, ∀ e ∈ c.entries, e.Faithful q) : blocks = others := by
  induction h with
  | nil => rfl
  | @cons b c blocks others hsame _ ih =>
    obtain ⟨hb, hblocks⟩ := List.forall_mem_cons.1 hblocks
    obtain ⟨hc, hothers⟩ := List.forall_mem_cons.1 hothers
    have hsub : b.entries ++ c.entries ⊆
        ((b :: blocks) ++ (c :: others)).flatMap Block.entries := by
      intro e he
      rcases List.mem_append.1 he with he | he
      · exact List.mem_flatMap.2 ⟨b, by simp, he⟩
      · exact List.mem_flatMap.2 ⟨c, by simp, he⟩
    have hrest : (blocks ++ others).flatMap Block.entries ⊆
        ((b :: blocks) ++ (c :: others)).flatMap Block.entries := by
      intro e he
      obtain ⟨x, hx, he⟩ := List.mem_flatMap.1 he
      have hsublist := (List.sublist_cons_self b blocks).append (List.sublist_cons_self c others)
      exact List.mem_flatMap.2 ⟨x, hsublist.subset hx, he⟩
    have hentries : b.entries = c.entries :=
      entries_eq indices (known.mono hsub) hb hc hsame.txs
    have hblock : b = c := by
      obtain ⟨hnumber, hhash, hparent, -⟩ := hsame
      cases b
      cases c
      cases hnumber
      cases hhash
      cases hparent
      cases hentries
      rfl
    rw [hblock, ih (known.mono hrest) hblocks hothers]

end Two

/-- What blocks lead to depends on where accounts and records are kept, and on nothing else. -/
theorem replay_congr {q : Rules} (keys : r.keys = q.keys) (blocks : List Block) :
    replay r blocks = replay q blocks := by
  induction blocks with
  | nil => rfl
  | cons b earlier ih => simp only [replay, ih, Rules.executeAll_congr keys]

/-- Two runs that lead to one head have the same block at every height, as far as hashes tell. -/
theorem Grown.same_blocks {q : Rules} {k : Lineage} (hgrown : Grown r h) (kgrown : Grown q k)
    (genesis : r.genesis = q.genesis) (free : NoCollision r.genesis (h.blocks ++ k.blocks))
    (hhead : h.state.head = k.state.head) :
    h.state.number = k.state.number ∧ List.Forall₂ Block.Same h.blocks k.blocks := by
  have hlinked := hgrown.linked
  have klinked := kgrown.linked
  rw [hhead] at hlinked
  rw [← genesis] at klinked
  have hblocks := hlinked.agree klinked free
  refine ⟨?_, hblocks⟩
  rw [hgrown.number, kgrown.number, hblocks.length_eq]

/-- **The head stands for the chain.** Two ledgers of one name that have the same head have the same
blocks, unless blocks collide; and then they hold and report the same, unless transactions collide or
somebody was funded. -/
theorem run_same_history (c d : Config) (chain : c.chain = d.chain) (ops others : List Op) :
    let r := Rules.ofConfig c
    let q := Rules.ofConfig d
    let h := (initial r).run r ops
    let k := (initial q).run q others
    (h.state = (State.initial r).run r ops ∧ Grown r h) ∧
    (k.state = (State.initial q).run q others ∧ Grown q k) ∧
    (NoCollision r.genesis (h.blocks ++ k.blocks) → h.state.head = k.state.head →
      h.state.number = k.state.number ∧ List.Forall₂ Block.Same h.blocks k.blocks ∧
      (c.layout = d.layout → c.indices = d.indices →
        (∀ account free, Op.fund account free ∉ ops ∧ Op.fund account free ∉ others) →
        KnownByHash ((h.blocks ++ k.blocks).flatMap Block.entries) →
          h.state.best = k.state.best ∧ h.state.events = k.state.events)) := by
  intro r q h k
  have hgrown : Grown r h := (Grown.initial r).run ops
  have kgrown : Grown q k := (Grown.initial q).run others
  refine ⟨⟨run_state r _ ops, hgrown⟩, ⟨run_state q _ others, kgrown⟩, fun free hhead => ?_⟩
  have hgenesis : r.genesis = q.genesis :=
    congrArg (fun name => BlockHash.mk (Digest.blake3 (Bytes.ofString name))) chain
  obtain ⟨hnumber, hsame⟩ := hgrown.same_blocks kgrown hgenesis free hhead
  refine ⟨hnumber, hsame, fun layout indices unfunded known => ?_⟩
  have hkeys : r.keys = q.keys := congrArg StorageKeys.ofLayout layout
  have hindices : r.indices = q.indices := indices
  have hfirst := replay_run (r := r) (h := initial r) rfl fun account free =>
    (unfunded account free).1
  have hsecond := replay_run (r := q) (h := initial q) rfl fun account free =>
    (unfunded account free).2
  have hblocks : h.blocks = k.blocks :=
    blocks_eq hindices hsame known hgrown.entries kgrown.entries
  have hreplay : replay r h.blocks = replay q k.blocks := by
    rw [hblocks, replay_congr hkeys]
  exact Prod.mk.inj (hfirst.trans (hreplay.trans hsecond.symm))

/-- The first transaction of a ledger that seals at once is its first block. -/
theorem run_first {x : Extrinsic} {call : Call} (instant : r.sealMode = .instant)
    (hvalid : (State.initial r).Valid r x call .ready) :
    let b : Block := ⟨State.blockHash r.genesis 1 [x.hash], r.genesis, 1, [⟨x.hash, x, call⟩]⟩
    ((initial r).run r [.submit x false]).state.head = b.hash ∧
      ((initial r).run r [.submit x false]).blocks = [b] := by
  obtain ⟨hready, hfuture⟩ := (State.quiet_initial r).accept_queues (r := r) x call false
  have hchecked := State.validate_eq_ok_iff.2 hvalid
  have hsubmit := State.submit_of_ok rfl hchecked false
  rw [State.sealIfInstant_of_singleton instant hready hfuture] at hsubmit
  have hexecutes : (State.initial r).executes r (.submit x false) = [⟨x.hash, x, call⟩] := by
    unfold State.executes
    simp only [hsubmit, hchecked, instant, if_true, hready]
  have hstep : (State.initial r).step r (.submit x false) =
      ((State.initial r).accept r x false call .ready).withBlock r := congrArg Prod.snd hsubmit
  have hhead : ((State.initial r).step r (.submit x false)).head =
      State.blockHash r.genesis 1 [x.hash] := by
    rw [hstep, State.withBlock_head, hready, State.accept_head, State.accept_number]
    rfl
  have hnumber : ((State.initial r).step r (.submit x false)).number = 1 := by
    rw [hstep, State.withBlock_number, State.accept_number]
    rfl
  unfold run
  rw [List.foldl_cons, List.foldl_nil]
  unfold step
  simp only [initial, hexecutes, hhead, hnumber]
  exact ⟨hhead, rfl⟩

/-- Two ledgers of one name that begin with the same transaction have one head. -/
theorem run_first_alike {q : Rules} {x : Extrinsic} {call : Call} (instant : r.sealMode = .instant)
    (kinstant : q.sealMode = .instant) (genesis : q.genesis = r.genesis)
    (hvalid : (State.initial r).Valid r x call .ready)
    (kvalid : (State.initial q).Valid q x call .ready)
    (differs : State.blockHash r.genesis 1 [x.hash] ≠ r.genesis) :
    let h := (initial r).run r [.submit x false]
    let k := (initial q).run q [.submit x false]
    NoCollision r.genesis (h.blocks ++ k.blocks) ∧ h.state.head = k.state.head ∧
      KnownByHash ((h.blocks ++ k.blocks).flatMap Block.entries) := by
  intro h k
  obtain ⟨hhead, hblocks⟩ := run_first instant hvalid
  obtain ⟨khead, kblocks⟩ := run_first kinstant kvalid
  rw [genesis] at khead kblocks
  unfold h k
  rw [hhead, khead, hblocks, kblocks]
  refine ⟨⟨?_, ?_⟩, rfl, ?_⟩
  · simp
  · simpa using differs
  · simp [KnownByHash]

open Ed25519 (neutralKey) in
/-- Two runtimes that put one transaction into their first blocks. -/
theorem run_same_history_first :
    let call := Call.set [7] [1] [2]
    let x := Extrinsic.neutral neutralKey 0 (call.encodeAt ⟨8, 0⟩)
    let h := (initial (Rules.ofConfig {})).run (Rules.ofConfig {}) [.submit x false]
    let k := (initial (Rules.ofConfig { version := ⟨101, 2⟩ })).run
      (Rules.ofConfig { version := ⟨101, 2⟩ }) [.submit x false]
    h.state.best = k.state.best ∧ h.state.events = k.state.events := by
  intro call x
  have hcall : (Rules.ofConfig {}).call? x.call = some call := by decide +kernel
  have hvalid : ∀ p : Rules, p.requireFunded = false → p.indices = {} →
      (State.initial p).Valid p x call .ready := by
    intro p hopen hindices
    have hverify := Extrinsic.verify_neutral Ed25519.neutralKey_namesNeutral 0 x.call p.chain
    refine (State.quiet_initial p).valid hopen hverify ?_ rfl
    unfold Rules.call?
    rw [hindices]
    exact hcall
  have differs : State.blockHash (Rules.ofConfig {}).genesis 1 [x.hash] ≠
      (Rules.ofConfig {}).genesis := by decide +kernel
  obtain ⟨hfree, hheads, hknown⟩ := run_first_alike (r := Rules.ofConfig {})
    (q := Rules.ofConfig { version := ⟨101, 2⟩ }) rfl rfl rfl (hvalid _ rfl rfl)
    (hvalid _ rfl rfl) differs
  exact ((run_same_history {} { version := ⟨101, 2⟩ } rfl [.submit x false] [.submit x false]).2.2
    hfree hheads).2.2 rfl rfl (by simp) hknown

end Lineage

end Ledger

end MetaLedger
