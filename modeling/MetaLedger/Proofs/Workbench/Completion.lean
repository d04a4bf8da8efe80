import MetaLedger.Workbench.Basic

/-!
# Operations that run through

An operation that is set off alone, straight at the ledger, goes from request to request until it ends.
`Completes` says so without the workbench: each request is served in turn, or answered by a ticket
whose holder has been told already, and the replies lead to the end in a number of moves. The workbench
gives an operation a limited number of moves, so it sees such an operation through if the number is
within the limit (`begin_of_completes`).
-/

namespace MetaLedger.Workbench

open Ledger (Rules State Service)

/-- From a state and a progress, the ledger's replies lead in `moves` moves to the end, the state after
it, and what is delivered and given back. -/
inductive Completes (r : Rules) : State → Store.Progress → Nat → State → List Bytes →
    Except Store.Error Store.Output → Prop where
  | ended {s : State} {delivered : List Bytes} {result : Except Store.Error Store.Output} :
      Completes r s (.ended delivered result) 0 s delivered result
  | reply {s next last : State} {task : Store.Task} {value : task.request.Reply} {moves : Nat}
      {delivered : List Bytes} {result : Except Store.Error Store.Output}
      (hserve : s.serve r task.request = (.reply value, next))
      (hrest : Completes r next (task.resume value) moves last delivered result) :
      Completes r s (.running task) (moves + 1) last delivered result
  | ticket {s next last : State} {task : Store.Task} {value : task.request.Reply}
      {ticket : Ledger.Ticket} {moves : Nat} {delivered : List Bytes}
      {result : Except Store.Error Store.Output}
      (hserve : s.serve r task.request = (.waiting ticket, next))
      (hanswer : (next.answer? ticket).bind task.request.replyOfReceipt? = some value)
      (hrest : Completes r next (task.resume value) moves last delivered result) :
      Completes r s (.running task) (moves + 2) last delivered result

/-! ## One move -/

section Move

variable {w : Workbench} {a : Activity} {next : State}

theorem serve_none (w : Workbench) (request : Node.Request) :
    w.serve none request =
      ((w.ledger.serve w.rules request).1,
        { w with ledger := (w.ledger.serve w.rules request).2 }) := rfl

theorem move_of_reply {value : a.request.Reply}
    (h : w.ledger.serve w.rules a.request = (.reply value, next)) :
    w.move { activity := a } =
      (Pending.resume { activity := a } value, { w with ledger := next }) := by
  show w.put { activity := a } = _
  unfold put
  simp only [serve_none, h]

theorem move_of_ticket {ticket : Ledger.Ticket}
    (h : w.ledger.serve w.rules a.request = (.waiting ticket, next)) :
    w.move { activity := a } =
      (.moved { activity := a, hold := .ticket ticket }, { w with ledger := next }) := by
  show w.put { activity := a } = _
  unfold put
  simp only [serve_none, h]

theorem move_of_answer {ticket : Ledger.Ticket} {value : a.request.Reply}
    (h : (w.ledger.answer? ticket).bind a.request.replyOfReceipt? = some value) :
    w.move { activity := a, hold := .ticket ticket } =
      (Pending.resume { activity := a, hold := .ticket ticket } value, w) := by
  unfold move
  simp only [h]

end Move

/-! ## Many moves -/

def follow (w : Workbench) (limit : Nat) : Progress → Motion × Workbench
  | .running activity => w.drive limit { activity }
  | .ended outcome => (.ended outcome, w)

section Drive

variable {w : Workbench} {a : Activity} {next : State}

theorem drive_of_reply {value : a.request.Reply}
    (h : w.ledger.serve w.rules a.request = (.reply value, next)) (limit : Nat) :
    w.drive (limit + 1) { activity := a } =
      { w with ledger := next }.follow limit (a.resume value) := by
  rw [drive, move_of_reply h]
  unfold Pending.resume
  cases a.resume value <;> rfl

theorem drive_of_ticket {ticket : Ledger.Ticket} {value : a.request.Reply}
    (h : w.ledger.serve w.rules a.request = (.waiting ticket, next))
    (hanswer : (next.answer? ticket).bind a.request.replyOfReceipt? = some value) (limit : Nat) :
    w.drive (limit + 2) { activity := a } =
      { w with ledger := next }.follow limit (a.resume value) := by
  have hmove : { w with ledger := next }.move { activity := a, hold := .ticket ticket } =
      (Pending.resume { activity := a, hold := .ticket ticket } value, { w with ledger := next }) :=
    move_of_answer hanswer
  rw [drive, move_of_ticket h]
  simp only
  rw [drive, hmove]
  unfold Pending.resume
  cases a.resume value <;> rfl

end Drive

/-- The workbench sees an operation through that completes within the limit. -/
theorem follow_of_completes {s last : State} {progress : Store.Progress} {moves : Nat}
    {delivered : List Bytes} {result : Except Store.Error Store.Output} (w : Workbench)
    (op : Store.Operation) (h : Completes w.rules s progress moves last delivered result)
    {limit : Nat} (hlimit : moves ≤ limit) :
    { w with ledger := s }.follow limit (.ofTask op progress) =
      (.ended (.finished op delivered result), { w with ledger := last }) := by
  induction h generalizing limit with
  | ended => rfl
  | @reply s next last task value moves delivered result hserve hrest ih =>
    obtain ⟨limit, rfl⟩ : ∃ n, limit = n + 1 := ⟨limit - 1, by omega⟩
    have hdrive : { w with ledger := s }.drive (limit + 1) { activity := .operation op task } =
        { w with ledger := next }.follow limit (.ofTask op (task.resume value)) :=
      drive_of_reply hserve limit
    exact hdrive.trans (ih (by omega))
  | @ticket s next last task value ticket moves delivered result hserve hanswer hrest ih =>
    obtain ⟨limit, rfl⟩ : ∃ n, limit = n + 2 := ⟨limit - 2, by omega⟩
    have hdrive : { w with ledger := s }.drive (limit + 2) { activity := .operation op task } =
        { w with ledger := next }.follow limit (.ofTask op (task.resume value)) :=
      drive_of_ticket hserve hanswer limit
    exact hdrive.trans (ih (by omega))

/-- An operation that is set off in a workbench ends at once if it completes within the limit. -/
theorem begin_of_completes {w : Workbench} {last : State} {progress : Store.Progress}
    {moves : Nat} {delivered : List Bytes} {result : Except Store.Error Store.Output}
    (op : Store.Operation) (h : Completes w.rules w.ledger progress moves last delivered result)
    (hlimit : moves ≤ 8 + w.ledger.best.size) :
    w.begin none (.ofTask op progress) =
      (.ended (.finished op delivered result), { w with ledger := last }) := by
  have hfollow := follow_of_completes w op h hlimit
  cases progress with
  | ended delivered result =>
    cases h
    rfl
  | running task =>
    have hdrive : w.drive (w.moves { activity := .operation op task })
        { activity := .operation op task } =
        (.ended (.finished op delivered result), { w with ledger := last }) := hfollow
    show w.begin none (.running (.operation op task)) = _
    unfold begin
    simp only [hdrive, keep]

end MetaLedger.Workbench
