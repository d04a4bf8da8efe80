import Mathlib.Data.List.Induction
import MetaLedger.Proofs.Ledger.Run
import MetaLedger.Proofs.Store.Contents
import MetaLedger.Workbench.Basic

/-!
# Steps of many clients, in any order

Each request to the ledger is one step, and between two requests of one activity there may be any number
of steps of others, and of things done with the ledger itself. So whatever clients do at the same time
is a list of acts (`Act`), each of which sets something off, moves one activity by one request or one
reply, or is done directly. What the ledger makes of the acts is a run of operations
(`perform_state`). What the activities are up to is proved with an `Invariant`, which says once for all
acts what has to be kept up when an activity sets off and when it goes on with a reply
(`Invariant.after`).
-/

namespace MetaLedger

open Ledger (Rules State Op)

/-! ## What a request does to a ledger -/

/-- What a request changes, if it changes something. -/
def Node.Request.op? : Node.Request → Option Op
  | .submit x => some (.submit x false)
  | .submitAndWatch x => some (.submit x true)
  | .close => some .close
  | _ => none

def Ledger.State.stepIf (r : Rules) (s : State) : Option Op → State
  | some op => s.step r op
  | none => s

theorem Ledger.State.serve_state (r : Rules) (s : State) (request : Node.Request) :
    (s.serve r request).2 = s.stepIf r request.op? := by
  cases request with
  | submitAndWatch x =>
    show (s.serve r (.submitAndWatch x)).2 = (s.submit r x true).2
    cases hsubmit : s.submit r x true with
    | mk reply next => cases reply <;> simp only [serve, hsubmit]
  | _ => rfl

namespace Workbench

/-! ## Acts -/

/-- What happens next. The number of a store names the client that acts, the number of a move the
activity that goes on. -/
inductive Act where
  | connect (signer : Signer) (config : Store.Config)
  | command (store : Nat) (command : Store.Command)
  | close (store : Nat)
  | move (number : Nat)
  | direct (op : Op)

/-- Gives an activity a number and leaves it where it is. -/
def launch (w : Workbench) : Progress → Standing × Workbench
  | .ended outcome => (.ended outcome, w)
  | .running activity =>
    (.pending w.nextPending,
      { w with
        pending := w.pending ++ [(w.nextPending, { activity })]
        nextPending := w.nextPending + 1 })

/-- What is under way by the number. -/
def found (w : Workbench) (number : Nat) : Option Pending :=
  (w.pending.find? (·.1 = number)).map (·.2)

/-- Puts an activity where it has come to, or takes it away. -/
def conclude (w : Workbench) (number : Nat) (front : Option Nat) : Motion → Standing × Workbench
  | .ended outcome => (.ended outcome, (w.drop number).keep front outcome)
  | .moved p | .held p =>
    (.pending number,
      { w with pending := w.pending.map fun q => if q.1 = number then (number, p) else q })

/-- Moves an activity once. -/
def advance (w : Workbench) (number : Nat) : Standing × Workbench :=
  match w.found number with
  | none => (if number < w.nextPending then .gone number else .unknown, w)
  | some p =>
    let (motion, w) := w.move p
    w.conclude number p.front motion

/-- The client's store has no session any more. -/
def shut (w : Workbench) (store : Nat) (client : Client) : Workbench :=
  { w with clients := w.clients.set store { client with store := client.store.close.1 } }

/-- Does what is next, and tells who did it where it stands. -/
def act (w : Workbench) : Act → Option Standing × Workbench
  | .connect signer config => Prod.map some id (w.launch (Activity.connect signer config))
  | .command store command =>
    match w.clients[store]? with
    | some client =>
      Prod.map some id (w.launch (.ofTask command.operation (command.start client.store)))
    | none => (some .unknown, w)
  | .close store =>
    match w.clients[store]? with
    | some client =>
      Prod.map some id ((w.shut store client).launch (.ofTask .close client.store.close.2))
    | none => (some .unknown, w)
  | .move number => Prod.map some id (w.advance number)
  | .direct op => (none, { w with ledger := w.ledger.step w.rules op })

section Act

variable {w : Workbench} {store : Nat}

theorem act_command {client : Client} (h : w.clients[store]? = some client)
    (command : Store.Command) :
    w.act (.command store command) = Prod.map some id
      (w.launch (.ofTask command.operation (command.start client.store))) := by
  simp only [act, h]

theorem act_close {client : Client} (h : w.clients[store]? = some client) :
    w.act (.close store) = Prod.map some id
      ((w.shut store client).launch (.ofTask .close client.store.close.2)) := by
  simp only [act, h]

theorem act_of_noClient (h : w.clients[store]? = none) (command : Store.Command) :
    w.act (.command store command) = (some .unknown, w) ∧
      w.act (.close store) = (some .unknown, w) := by
  simp only [act, h, and_self]

end Act

def perform (w : Workbench) (acts : List Act) : Workbench := acts.foldl (fun w a => (w.act a).2) w

theorem perform_append (w : Workbench) (first second : List Act) :
    w.perform (first ++ second) = (w.perform first).perform second := List.foldl_append

/-- The workbench with a new ledger after some acts. -/
abbrev after (c : Ledger.Config) (acts : List Act) : Workbench :=
  (Workbench.ofConfig c).perform acts

theorem after_append (c : Ledger.Config) (first second : List Act) :
    after c (first ++ second) = (after c first).perform second := perform_append _ first second

theorem after_concat (c : Ledger.Config) (acts : List Act) (a : Act) :
    after c (acts ++ [a]) = ((after c acts).act a).2 := perform_append _ acts [a]

/-! ## What a move comes to -/

/-- The activity waits for a ledger's reply, and not for a receipt. -/
def Pending.isFree (p : Pending) : Bool :=
  match p.hold with
  | .ticket _ => false
  | _ => true

/-- What comes of moving an activity that goes straight to the ledger. -/
inductive Moves (w : Workbench) (p : Pending) : Motion × Workbench → Prop
  | reply {value : p.activity.request.Reply} {next : State} (hfree : p.isFree = true)
      (hserve : w.ledger.serve w.rules p.activity.request = (.reply value, next)) :
      Moves w p (p.resume value, { w with ledger := next })
  | wait {ticket : Ledger.Ticket} {next : State} (hfree : p.isFree = true)
      (hserve : w.ledger.serve w.rules p.activity.request = (.waiting ticket, next)) :
      Moves w p (.moved { p with hold := .ticket ticket }, { w with ledger := next })
  | told {receipt : Except Node.Error Receipt} {value : p.activity.request.Reply}
      (hheld : p.isFree = false) (hreply : p.activity.request.replyOfReceipt? receipt = some value) :
      Moves w p (p.resume value, w)
  | held (hheld : p.isFree = false) : Moves w p (.held p, w)

section Fronts

variable {w : Workbench} (hfronts : w.fronts = [])

include hfronts

theorem serve_of_noFronts (front : Option Nat) (request : Node.Request) :
    w.serve front request = ((w.ledger.serve w.rules request).1,
      { w with ledger := (w.ledger.serve w.rules request).2 }) := by
  have hnone : (front.bind fun i => w.fronts[i]?.map (i, ·)) = none := by
    rw [hfronts]
    cases front <;> rfl
  unfold serve
  rw [hnone]

theorem putsOff_of_noFronts (front : Option Nat) (request : Node.Request) :
    w.putsOff front request = false := by
  have hnone : (front.bind fun i => w.fronts[i]?) = none := by
    rw [hfronts]
    cases front <;> rfl
  unfold putsOff
  rw [hnone]

theorem moves_put (p : Pending) (hfree : p.isFree = true) : Moves w p (w.put p) := by
  have hserve := serve_of_noFronts hfronts p.front p.activity.request
  unfold put
  rw [hserve]
  cases hservice : w.ledger.serve w.rules p.activity.request with
  | mk service next =>
    cases service with
    | reply value => exact .reply hfree hservice
    | waiting ticket => exact .wait hfree hservice

theorem moves_move (p : Pending) : Moves w p (w.move p) := by
  obtain ⟨activity, front, hold⟩ := p
  cases hold with
  | none =>
    unfold move
    simp only [putsOff_of_noFronts hfronts, Bool.false_eq_true, if_false]
    exact moves_put hfronts _ rfl
  | putOff => exact moves_put hfronts _ rfl
  | ticket ticket =>
    unfold move
    cases hanswer : (w.ledger.answer? ticket).bind activity.request.replyOfReceipt? with
    | none =>
      simp only [hanswer]
      exact .held rfl
    | some value =>
      obtain ⟨receipt, -, hreply⟩ := Option.bind_eq_some_iff.1 hanswer
      simp only [hanswer]
      exact .told rfl hreply

end Fronts

/-! ## What an act changes -/

section Conclude

variable (w : Workbench) (number : Nat) (front : Option Nat) (motion : Motion)

theorem keep_ledger (outcome : Outcome) : (w.keep front outcome).ledger = w.ledger := by
  unfold keep; split <;> rfl

theorem keep_rules (outcome : Outcome) : (w.keep front outcome).rules = w.rules := by
  unfold keep; split <;> rfl

theorem keep_fronts (outcome : Outcome) : (w.keep front outcome).fronts = w.fronts := by
  unfold keep; split <;> rfl

theorem keep_pending (outcome : Outcome) : (w.keep front outcome).pending = w.pending := by
  unfold keep; split <;> rfl

theorem conclude_ledger : (w.conclude number front motion).2.ledger = w.ledger := by
  cases motion with
  | ended outcome => exact keep_ledger _ front outcome
  | _ => rfl

theorem conclude_rules : (w.conclude number front motion).2.rules = w.rules := by
  cases motion with
  | ended outcome => exact keep_rules _ front outcome
  | _ => rfl

theorem conclude_fronts : (w.conclude number front motion).2.fronts = w.fronts := by
  cases motion with
  | ended outcome => exact keep_fronts _ front outcome
  | _ => rfl

variable {w number front motion}

theorem mem_replaced {q : Nat × Pending} {p : Pending}
    (h : q ∈ w.pending.map fun q => if q.1 = number then (number, p) else q) :
    q ∈ w.pending ∧ q.1 ≠ number ∨ q = (number, p) := by
  obtain ⟨old, hold, heq⟩ := List.mem_map.1 h
  by_cases hnumber : old.1 = number
  · rw [if_pos hnumber] at heq
    exact .inr heq.symm
  · rw [if_neg hnumber] at heq
    subst heq
    exact .inl ⟨hold, hnumber⟩

/-- Nothing but the activity that moved is somewhere else. -/
theorem mem_pending_conclude {q : Nat × Pending}
    (h : q ∈ (w.conclude number front motion).2.pending) :
    q ∈ w.pending ∧ q.1 ≠ number ∨ q.1 = number ∧ (motion = .moved q.2 ∨ motion = .held q.2) := by
  cases motion with
  | moved p =>
    rcases mem_replaced h with hother | rfl
    · exact .inl hother
    · exact .inr ⟨rfl, .inl rfl⟩
  | held p =>
    rcases mem_replaced h with hother | rfl
    · exact .inl hother
    · exact .inr ⟨rfl, .inr rfl⟩
  | ended outcome =>
    rw [show (w.conclude number front (.ended outcome)).2 = (w.drop number).keep front outcome from rfl,
      keep_pending] at h
    obtain ⟨hmem, hnumber⟩ := List.mem_filter.1 h
    exact .inl ⟨hmem, of_decide_eq_true hnumber⟩

/-- There are no new clients but those whose connection has ended. -/
theorem mem_clients_conclude {client : Client}
    (h : client ∈ (w.conclude number front motion).2.clients) :
    client ∈ w.clients ∨ motion = .ended (.connected (.ok client.store)) := by
  cases motion with
  | moved p => exact .inl h
  | held p => exact .inl h
  | ended outcome =>
    rw [show (w.conclude number front (.ended outcome)).2 = (w.drop number).keep front outcome from rfl]
      at h
    unfold keep at h
    split at h
    · rcases List.mem_append.1 h with h | h
      · exact .inl h
      · rw [List.mem_singleton.1 h]
        exact .inr rfl
    · exact .inl h

end Conclude

theorem mem_of_found {w : Workbench} {number : Nat} {p : Pending} (h : w.found number = some p) :
    (number, p) ∈ w.pending := by
  obtain ⟨q, hfind, rfl⟩ := Option.map_eq_some_iff.1 h
  have hnumber : decide (q.1 = number) = true :=
    List.find?_some (p := fun q : Nat × Pending => decide (q.1 = number)) hfind
  rw [← of_decide_eq_true hnumber]
  exact List.mem_of_find?_eq_some hfind

theorem ne_of_notFound {w : Workbench} {number : Nat} (h : w.found number = none)
    {q : Nat × Pending} (hq : q ∈ w.pending) : q.1 ≠ number := by
  have hnone := List.find?_eq_none.1 (Option.map_eq_none_iff.1 h) q hq
  intro heq
  exact hnone (decide_eq_true heq)

/-- What the act does with the ledger. -/
def op? (w : Workbench) : Act → Option Op
  | .direct op => some op
  | .move number =>
    (w.found number).bind fun p => if p.isFree then p.activity.request.op? else none
  | _ => none

theorem op?_move {w : Workbench} {number : Nat} {p : Pending} (h : w.found number = some p) :
    w.op? (.move number) = if p.isFree then p.activity.request.op? else none := by
  simp only [op?, h, Option.bind_some]

theorem op?_move_of_none {w : Workbench} {number : Nat} (h : w.found number = none) :
    w.op? (.move number) = none := by
  simp only [op?, h, Option.bind_none]

/-- What is noted of the acts, one after the other. -/
def noted {α : Type} (note : Workbench → Act → List α) (w : Workbench) : List Act → List α
  | [] => []
  | a :: acts => note w a ++ (w.act a).2.noted note acts

/-- What the acts do with the ledger, in their order. -/
abbrev ops (w : Workbench) (acts : List Act) : List Op := w.noted (fun w a => (w.op? a).toList) acts

theorem length_ops_le (w : Workbench) (acts : List Act) : (w.ops acts).length ≤ acts.length := by
  induction acts generalizing w with
  | nil => exact Nat.le_refl 0
  | cons a acts ih =>
    have hone : (w.op? a).toList.length ≤ 1 := by
      cases w.op? a with
      | none => exact Nat.zero_le 1
      | some op => exact Nat.le_refl 1
    rw [ops, noted, List.length_append, List.length_cons, Nat.add_comm]
    exact Nat.add_le_add (ih (w.act a).2) hone

section Noted

variable {α : Type} (note : Workbench → Act → List α)

theorem noted_append (w : Workbench) (first second : List Act) :
    w.noted note (first ++ second) = w.noted note first ++ (w.perform first).noted note second := by
  induction first generalizing w with
  | nil => rfl
  | cons a first ih =>
    rw [List.cons_append, noted, noted, ih, List.append_assoc]
    rfl

variable {note}

theorem noted_concat (w : Workbench) (acts : List Act) (a : Act) :
    w.noted note (acts ++ [a]) = w.noted note acts ++ note (w.perform acts) a := by
  rw [noted_append, noted, noted, List.append_nil]

theorem exists_act_of_mem_noted {w : Workbench} {acts : List Act} {x : α}
    (h : x ∈ w.noted note acts) :
    ∃ before a later, acts = before ++ a :: later ∧ x ∈ note (w.perform before) a := by
  induction acts generalizing w with
  | nil => cases h
  | cons a acts ih =>
    rcases List.mem_append.1 h with h | h
    · exact ⟨[], a, acts, rfl, h⟩
    · obtain ⟨before, b, later, rfl, hnoted⟩ := ih h
      exact ⟨a :: before, b, later, rfl, hnoted⟩

end Noted

theorem launch_eq (w : Workbench) (p : Progress) :
    (w.launch p).2.ledger = w.ledger ∧ (w.launch p).2.rules = w.rules ∧
      (w.launch p).2.fronts = w.fronts := by
  cases p <;> exact ⟨rfl, rfl, rfl⟩

theorem Moves.state {w next : Workbench} {p : Pending} {motion : Motion}
    (h : Moves w p (motion, next)) :
    next = { w with
      ledger := w.ledger.stepIf w.rules (if p.isFree then p.activity.request.op? else none) } := by
  cases h with
  | reply hfree hserve =>
    have hstate := State.serve_state w.rules w.ledger p.activity.request
    rw [hserve] at hstate
    rw [hfree, if_pos rfl, ← hstate]
  | wait hfree hserve =>
    have hstate := State.serve_state w.rules w.ledger p.activity.request
    rw [hserve] at hstate
    rw [hfree, if_pos rfl, ← hstate]
  | told hheld hreply =>
    rw [hheld, if_neg Bool.false_ne_true]
    rfl
  | held hheld =>
    rw [hheld, if_neg Bool.false_ne_true]
    rfl

/-- A move of something under way is one of its kinds, and its activity stands accordingly. -/
theorem advance_of_found {w : Workbench} (hfronts : w.fronts = []) {number : Nat} {p : Pending}
    (hfound : w.found number = some p) :
    ∃ motion next, Moves w p (motion, next) ∧
      w.advance number = next.conclude number p.front motion := by
  refine ⟨(w.move p).1, (w.move p).2, moves_move hfronts p, ?_⟩
  unfold advance
  simp only [hfound]

theorem advance_of_notFound {w : Workbench} {number : Nat} (hfound : w.found number = none) :
    (w.advance number).2 = w ∧ ∀ outcome, (w.advance number).1 ≠ .ended outcome := by
  unfold advance
  simp only [hfound, true_and]
  intro outcome
  split <;> nofun

section Ledger

variable {w : Workbench} (hfronts : w.fronts = [])

include hfronts

theorem act_state (a : Act) :
    (w.act a).2.ledger = w.ledger.stepIf w.rules (w.op? a) ∧ (w.act a).2.rules = w.rules ∧
      (w.act a).2.fronts = [] := by
  cases a with
  | connect signer config =>
    obtain ⟨hledger, hrules, hsame⟩ := w.launch_eq (Activity.connect signer config)
    exact ⟨hledger, hrules, hsame.trans hfronts⟩
  | command store command =>
    cases hclient : w.clients[store]? with
    | none =>
      rw [(act_of_noClient hclient command).1]
      exact ⟨rfl, rfl, hfronts⟩
    | some client =>
      rw [act_command hclient]
      obtain ⟨hledger, hrules, hsame⟩ :=
        w.launch_eq (.ofTask command.operation (command.start client.store))
      exact ⟨hledger, hrules, hsame.trans hfronts⟩
  | close store =>
    cases hclient : w.clients[store]? with
    | none =>
      rw [(act_of_noClient hclient (.listKeys [])).2]
      exact ⟨rfl, rfl, hfronts⟩
    | some client =>
      rw [act_close hclient]
      obtain ⟨hledger, hrules, hsame⟩ :=
        (w.shut store client).launch_eq (.ofTask .close client.store.close.2)
      exact ⟨hledger, hrules, hsame.trans hfronts⟩
  | move number =>
    cases hfound : w.found number with
    | none =>
      have hsame : (w.act (.move number)).2 = w := (advance_of_notFound hfound).1
      rw [hsame, op?_move_of_none hfound]
      exact ⟨rfl, rfl, hfronts⟩
    | some p =>
      obtain ⟨motion, next, hmoves, hadvance⟩ := advance_of_found hfronts hfound
      have hact : (w.act (.move number)).2 = (next.conclude number p.front motion).2 :=
        congrArg Prod.snd hadvance
      rw [hact, op?_move hfound, conclude_ledger, conclude_rules, conclude_fronts, hmoves.state]
      exact ⟨rfl, rfl, hfronts⟩
  | direct op => exact ⟨rfl, rfl, hfronts⟩

/-- **What the acts come to at the ledger is a run of operations.** -/
theorem perform_state (acts : List Act) :
    (w.perform acts).ledger = w.ledger.run w.rules (w.ops acts) ∧ (w.perform acts).rules = w.rules ∧
      (w.perform acts).fronts = [] := by
  induction acts generalizing w with
  | nil => exact ⟨rfl, rfl, hfronts⟩
  | cons a acts ih =>
    obtain ⟨hledger, hrules, hnext⟩ := act_state hfronts a
    obtain ⟨hlast, hrules', hfronts'⟩ := ih hnext
    refine ⟨?_, hrules'.trans hrules, hfronts'⟩
    show ((w.act a).2.perform acts).ledger =
      w.ledger.run w.rules ((w.op? a).toList ++ (w.act a).2.ops acts)
    rw [hlast, hledger, hrules, State.run_append]
    cases w.op? a <;> rfl

end Ledger

theorem after_ledger (c : Ledger.Config) (acts : List Act) :
    (after c acts).ledger =
      (State.initial (Rules.ofConfig c)).run (Rules.ofConfig c) ((Workbench.ofConfig c).ops acts) :=
  (perform_state (w := Workbench.ofConfig c) rfl acts).1

theorem after_rules (c : Ledger.Config) (acts : List Act) :
    (after c acts).rules = Rules.ofConfig c :=
  (perform_state (w := Workbench.ofConfig c) rfl acts).2.1

theorem after_fronts (c : Ledger.Config) (acts : List Act) : (after c acts).fronts = [] :=
  (perform_state (w := Workbench.ofConfig c) rfl acts).2.2

/-- What the last act does to the ledger. -/
theorem ledger_concat (c : Ledger.Config) (acts : List Act) (a : Act) :
    (after c (acts ++ [a])).ledger =
      (after c acts).ledger.stepIf (Rules.ofConfig c) ((after c acts).op? a) := by
  rw [after_concat, (act_state (after_fronts c acts) a).1, after_rules]

/-- Whatever an act tells as ended was over at the start, or has just moved to its end. -/
theorem ended_of_act {w : Workbench} (hfronts : w.fronts = []) {a : Act} {outcome : Outcome}
    (h : (w.act a).1 = some (.ended outcome)) :
    (∃ signer config, a = .connect signer config ∧ Activity.connect signer config = .ended outcome) ∨
    (∃ store command client, a = .command store command ∧ w.clients[store]? = some client ∧
      Progress.ofTask command.operation (command.start client.store) = .ended outcome) ∨
    (∃ store client, a = .close store ∧ w.clients[store]? = some client ∧
      Progress.ofTask .close client.store.close.2 = .ended outcome) ∨
    ∃ number p next, a = .move number ∧ w.found number = some p ∧
      Moves w p (.ended outcome, next) := by
  have hlaunch : ∀ {w : Workbench} {p : Progress}, some (w.launch p).1 = some (.ended outcome) →
      p = .ended outcome := by
    intro w p h
    cases p with
    | ended found =>
      cases h
      rfl
    | running activity => cases h
  cases a with
  | connect signer config => exact .inl ⟨signer, config, rfl, hlaunch h⟩
  | command store command =>
    cases hclient : w.clients[store]? with
    | none =>
      rw [(act_of_noClient hclient command).1] at h
      cases h
    | some client =>
      rw [act_command hclient] at h
      exact .inr (.inl ⟨store, command, client, rfl, hclient, hlaunch h⟩)
  | close store =>
    cases hclient : w.clients[store]? with
    | none =>
      rw [(act_of_noClient hclient (.listKeys [])).2] at h
      cases h
    | some client =>
      rw [act_close hclient] at h
      exact .inr (.inr (.inl ⟨store, client, rfl, hclient, hlaunch h⟩))
  | move number =>
    have hended : (w.advance number).1 = .ended outcome := Option.some_inj.1 h
    cases hfound : w.found number with
    | none => exact absurd hended ((advance_of_notFound hfound).2 outcome)
    | some p =>
      obtain ⟨motion, next, hmoves, hadvance⟩ := advance_of_found hfronts hfound
      rw [hadvance] at hended
      cases motion with
      | moved q => cases hended
      | held q => cases hended
      | ended found =>
        cases hended
        exact .inr (.inr (.inr ⟨number, p, next, rfl, hfound, hmoves⟩))
  | direct op => cases h

/-! ## What is kept up by all acts -/

section Launch

variable {w : Workbench} {p : Progress}

theorem mem_pending_launch {q : Nat × Pending} (h : q ∈ (w.launch p).2.pending) :
    q ∈ w.pending ∨ q.1 = w.nextPending ∧ p = .running q.2.activity := by
  cases p with
  | ended outcome => exact .inl h
  | running activity =>
    rcases List.mem_append.1 h with h | h
    · exact .inl h
    · rw [List.mem_singleton.1 h]
      exact .inr ⟨rfl, rfl⟩

theorem launch_clients : (w.launch p).2.clients = w.clients := by
  cases p <;> rfl

theorem nextPending_le_launch : w.nextPending ≤ (w.launch p).2.nextPending := by
  cases p with
  | ended outcome => exact Nat.le_refl _
  | running activity => exact Nat.le_succ _

end Launch

/-! ## Numbers -/

/-- All that is under way has a number that was given out. -/
def Numbered (w : Workbench) : Prop := ∀ q ∈ w.pending, q.1 < w.nextPending

theorem Numbered.launch {w : Workbench} (h : Numbered w) (p : Progress) : Numbered (w.launch p).2 := by
  intro q hq
  cases p with
  | ended outcome => exact h q hq
  | running activity =>
    rcases List.mem_append.1 hq with hq | hq
    · exact Nat.lt_succ_of_lt (h q hq)
    · rw [List.mem_singleton.1 hq]
      exact Nat.lt_succ_self _

theorem conclude_nextPending (w : Workbench) (number : Nat) (front : Option Nat) (motion : Motion) :
    (w.conclude number front motion).2.nextPending = w.nextPending := by
  cases motion with
  | ended outcome =>
    show ((w.drop number).keep front outcome).nextPending = w.nextPending
    unfold keep
    split <;> rfl
  | _ => rfl

/-- Numbers are given out in their order, and not twice. -/
theorem Numbered.act {w : Workbench} (hfronts : w.fronts = []) (h : Numbered w) (a : Act) :
    Numbered (w.act a).2 ∧ w.nextPending ≤ (w.act a).2.nextPending := by
  cases a with
  | connect signer config => exact ⟨h.launch _, nextPending_le_launch⟩
  | command store command =>
    cases hclient : w.clients[store]? with
    | none =>
      rw [(act_of_noClient hclient command).1]
      exact ⟨h, Nat.le_refl _⟩
    | some client =>
      rw [act_command hclient]
      exact ⟨h.launch _, nextPending_le_launch⟩
  | close store =>
    cases hclient : w.clients[store]? with
    | none =>
      rw [(act_of_noClient hclient (.listKeys [])).2]
      exact ⟨h, Nat.le_refl _⟩
    | some client =>
      rw [act_close hclient]
      have hshut : Numbered (w.shut store client) := h
      exact ⟨hshut.launch _, nextPending_le_launch (w := w.shut store client)⟩
  | move number =>
    show Numbered (w.advance number).2 ∧ w.nextPending ≤ (w.advance number).2.nextPending
    cases hfound : w.found number with
    | none =>
      rw [(advance_of_notFound hfound).1]
      exact ⟨h, Nat.le_refl _⟩
    | some p =>
      obtain ⟨motion, next, hmoves, hadvance⟩ := advance_of_found hfronts hfound
      have hstate := hmoves.state
      have hnext : next.nextPending = w.nextPending := by rw [hstate]
      have hpending : next.pending = w.pending := by rw [hstate]
      rw [hadvance, conclude_nextPending, hnext]
      refine ⟨?_, Nat.le_refl _⟩
      intro q hq
      rw [conclude_nextPending, hnext]
      rcases mem_pending_conclude hq with ⟨hq, -⟩ | ⟨hnumber, -⟩
      · rw [hpending] at hq
        exact h q hq
      · rw [hnumber]
        exact h _ (mem_of_found hfound)
  | direct op => exact ⟨h, Nat.le_refl _⟩

theorem numbered_after (c : Ledger.Config) (acts : List Act) : Numbered (after c acts) := by
  induction acts using List.reverseRec with
  | nil => exact fun q hq => nomatch hq
  | append_singleton acts a ih =>
    rw [after_concat]
    exact (ih.act (after_fronts c acts) a).1

/-- The activity goes on as `A` says, or has ended as `F` says. -/
def Comes (A : Activity → Prop) (F : Outcome → Prop) : Progress → Prop
  | .running activity => A activity
  | .ended outcome => F outcome

theorem Comes.resume {A : Activity → Prop} {F : Outcome → Prop} {p : Pending}
    {value : p.activity.request.Reply} (h : Comes A F (p.activity.resume value)) :
    (∀ q, p.resume value = .moved q ∨ p.resume value = .held q → A q.activity) ∧
      ∀ outcome, p.resume value = .ended outcome → F outcome := by
  unfold Pending.resume
  cases hresume : p.activity.resume value with
  | running activity =>
    rw [hresume] at h
    refine ⟨?_, fun _ hended => nomatch hended⟩
    rintro q (hq | hq)
    · cases hq
      exact h
    · cases hq
  | ended outcome =>
    rw [hresume] at h
    refine ⟨?_, ?_⟩
    · rintro q (hq | hq) <;> cases hq
    · rintro found hfound
      cases hfound
      exact h

/-- Reasons why, as long as only admitted acts happen, each store is as `K` says, what is under way by a
number is as `A` says, and what ends does so as `F` says. All three may look back on the acts so far. -/
structure Invariant (c : Ledger.Config) (admits : Act → Prop) (K : List Act → Store → Prop)
    (A : List Act → Nat → Activity → Prop) (F : List Act → Outcome → Prop) : Prop where
  connect : ∀ {acts signer config}, admits (.connect signer config) →
    Comes (A (acts ++ [.connect signer config]) (after c acts).nextPending)
      (F (acts ++ [.connect signer config])) (Activity.connect signer config)
  command : ∀ {acts store command} {client : Client}, (after c acts).clients[store]? = some client →
    admits (.command store command) → K acts client.store →
    Comes (A (acts ++ [.command store command]) (after c acts).nextPending)
      (F (acts ++ [.command store command])) (.ofTask command.operation (command.start client.store))
  close : ∀ {acts store} {s : Store}, admits (.close store) → K acts s →
    K (acts ++ [.close store]) s.close.1
  release : ∀ {acts store} {s : Store}, admits (.close store) → K acts s →
    Comes (A (acts ++ [.close store]) (after c acts).nextPending) (F (acts ++ [.close store]))
      (.ofTask .close s.close.2)
  /-- The ledger replies to the activity. -/
  reply : ∀ {acts number} {p : Pending} {value : p.activity.request.Reply} {next : State},
    (after c acts).found number = some p → p.isFree = true → A acts number p.activity →
    (after c acts).ledger.serve (Rules.ofConfig c) p.activity.request = (.reply value, next) →
    Comes (A (acts ++ [.move number]) number) (F (acts ++ [.move number])) (p.activity.resume value)
  /-- The receipt is there that the activity waits for. -/
  told : ∀ {acts number receipt} {p : Pending} {value : p.activity.request.Reply},
    (after c acts).found number = some p → A acts number p.activity →
    p.activity.request.replyOfReceipt? receipt = some value →
    Comes (A (acts ++ [.move number]) number) (F (acts ++ [.move number])) (p.activity.resume value)
  /-- The receipt is not there yet. -/
  stay : ∀ {acts number p}, (after c acts).found number = some p →
    (p.isFree = false ∨ ∃ ticket next,
      (after c acts).ledger.serve (Rules.ofConfig c) p.activity.request = (.waiting ticket, next)) →
    A acts number p.activity → A (acts ++ [.move number]) number p.activity
  /-- Another one goes on. -/
  other : ∀ {acts a number activity}, admits a → a ≠ .move number → A acts number activity →
    A (acts ++ [a]) number activity
  keep : ∀ {acts a} {s : Store}, admits a → K acts s → K (acts ++ [a]) s
  connected : ∀ {acts} {s : Store}, F acts (.connected (.ok s)) → K acts s

namespace Invariant

variable {c : Ledger.Config} {admits : Act → Prop} {K : List Act → Store → Prop}
  {A : List Act → Nat → Activity → Prop} {F : List Act → Outcome → Prop}

/-- After the acts, `K` holds of every client's store and `A` of all that is under way. -/
structure Kept (c : Ledger.Config) (K : List Act → Store → Prop)
    (A : List Act → Nat → Activity → Prop) (acts : List Act) : Prop where
  clients : ∀ client ∈ (after c acts).clients, K acts client.store
  pending : ∀ q ∈ (after c acts).pending, A acts q.1 q.2.activity

theorem launched (h : Invariant c admits K A F) {acts : List Act} {a : Act} (ha : admits a)
    (hmove : ∀ number, a ≠ .move number) (hkept : Kept c K A acts) {w : Workbench} {p : Progress}
    (hpending : w.pending = (after c acts).pending)
    (hclients : ∀ client ∈ w.clients, K (acts ++ [a]) client.store)
    (hstart : Comes (A (acts ++ [a]) w.nextPending) (F (acts ++ [a])) p)
    (hact : after c (acts ++ [a]) = (w.launch p).2) : Kept c K A (acts ++ [a]) := by
  constructor
  · rw [hact, launch_clients]
    exact hclients
  · intro q hq
    rw [hact] at hq
    rcases mem_pending_launch hq with hq | ⟨hnumber, hq⟩
    · rw [hpending] at hq
      exact h.other ha (hmove q.1) (hkept.pending q hq)
    · rw [hq] at hstart
      rw [hnumber]
      exact hstart

theorem moved (h : Invariant c admits K A F) {acts : List Act} {number : Nat} {p : Pending}
    (hfound : (Workbench.after c acts).found number = some p) (hp : A acts number p.activity)
    {motion : Motion} {next : Workbench} (hmoves : Moves (Workbench.after c acts) p (motion, next)) :
    (∀ q, motion = .moved q ∨ motion = .held q → A (acts ++ [.move number]) number q.activity) ∧
      ∀ outcome, motion = .ended outcome → F (acts ++ [.move number]) outcome := by
  have hrules := after_rules c acts
  cases hmoves with
  | reply hfree hserve =>
    rw [hrules] at hserve
    exact (h.reply hfound hfree hp hserve).resume
  | wait hfree hserve =>
    rw [hrules] at hserve
    refine ⟨?_, fun _ hended => nomatch hended⟩
    rintro q (hq | hq)
    · cases hq
      exact h.stay (p := p) hfound (.inr ⟨_, _, hserve⟩) hp
    · cases hq
  | told hheld hreply => exact (h.told hfound hp hreply).resume
  | held hheld =>
    refine ⟨?_, fun _ hended => nomatch hended⟩
    rintro q (hq | hq)
    · cases hq
    · cases hq
      exact h.stay (p := p) hfound (.inl hheld) hp

theorem step (h : Invariant c admits K A F) {acts : List Act} {a : Act} (ha : admits a)
    (hkept : Kept c K A acts) : Kept c K A (acts ++ [a]) := by
  have hact := after_concat c acts a
  have hclients : ∀ client ∈ (after c acts).clients, K (acts ++ [a]) client.store := by
    intro client hclient
    exact h.keep ha (hkept.clients client hclient)
  have hsame : after c (acts ++ [a]) = after c acts → (∀ number, a ≠ .move number) →
      Kept c K A (acts ++ [a]) := by
    intro heq hmove
    constructor
    · rw [heq]
      exact hclients
    · intro q hq
      rw [heq] at hq
      exact h.other ha (hmove q.1) (hkept.pending q hq)
  cases a with
  | connect signer config =>
    exact h.launched ha nofun hkept rfl hclients (h.connect ha) hact
  | command store command =>
    cases hclient : (after c acts).clients[store]? with
    | none =>
      rw [(act_of_noClient hclient command).1] at hact
      exact hsame hact nofun
    | some client =>
      rw [act_command hclient] at hact
      have hk := hkept.clients client (List.mem_of_getElem? hclient)
      exact h.launched ha nofun hkept rfl hclients (h.command hclient ha hk) hact
  | close store =>
    cases hclient : (after c acts).clients[store]? with
    | none =>
      rw [(act_of_noClient hclient (.listKeys [])).2] at hact
      exact hsame hact nofun
    | some client =>
      rw [act_close hclient] at hact
      have hk := hkept.clients client (List.mem_of_getElem? hclient)
      refine h.launched (w := (after c acts).shut store client) ha nofun hkept rfl ?_
        (h.release ha hk) hact
      intro other hother
      rcases List.mem_or_eq_of_mem_set hother with hother | rfl
      · exact hclients other hother
      · exact h.close ha hk
  | move number =>
    cases hfound : (after c acts).found number with
    | none =>
      have hidle : ((after c acts).act (.move number)).2 = after c acts :=
        (advance_of_notFound hfound).1
      rw [hidle] at hact
      constructor
      · rw [hact]
        exact hclients
      · intro q hq
        rw [hact] at hq
        refine h.other ha ?_ (hkept.pending q hq)
        rintro ⟨⟩
        exact ne_of_notFound hfound hq rfl
    | some p =>
      obtain ⟨motion, next, hmoves, hadvance⟩ := advance_of_found (after_fronts c acts) hfound
      have hconclude : ((after c acts).act (.move number)).2 =
          (next.conclude number p.front motion).2 := congrArg Prod.snd hadvance
      obtain ⟨hnext, hended⟩ :=
        h.moved hfound (hkept.pending _ (mem_of_found hfound)) hmoves
      have hstate := hmoves.state
      rw [hconclude] at hact
      -- A move changes the ledger and what has its number. New clients come from connections that ended.
      constructor
      · intro client hclient
        rw [hact] at hclient
        rcases mem_clients_conclude hclient with hclient | hconnected
        · rw [hstate] at hclient
          exact hclients client hclient
        · exact h.connected (hended _ hconnected)
      · intro q hq
        rw [hact] at hq
        rcases mem_pending_conclude hq with ⟨hq, hnumber⟩ | ⟨hnumber, hmotion⟩
        · rw [hstate] at hq
          refine h.other ha ?_ (hkept.pending q hq)
          rintro ⟨⟩
          exact hnumber rfl
        · rw [hnumber]
          exact hnext q.2 hmotion
  | direct op =>
    constructor
    · rw [hact]
      exact hclients
    · intro q hq
      rw [hact] at hq
      exact h.other ha nofun (hkept.pending q hq)

theorem after (h : Invariant c admits K A F) {acts : List Act} (hadmits : ∀ a ∈ acts, admits a) :
    Kept c K A acts := by
  -- From the end of the acts, since `K` and `A` look back on all of those before.
  induction acts using List.reverseRec with
  | nil =>
    have hclients : (Workbench.after c []).clients = [] := rfl
    have hpending : (Workbench.after c []).pending = [] := rfl
    constructor
    · intro client hclient
      rw [hclients] at hclient
      cases hclient
    · intro q hq
      rw [hpending] at hq
      cases hq
  | append_singleton acts a ih =>
    refine h.step (hadmits a (List.mem_append_right _ (List.mem_singleton_self a))) (ih ?_)
    intro b hb
    exact hadmits b (List.mem_append_left _ hb)

theorem ended (h : Invariant c admits K A F) {acts : List Act} (hadmits : ∀ a ∈ acts, admits a)
    {a : Act} (ha : admits a) {outcome : Outcome}
    (hended : ((Workbench.after c acts).act a).1 = some (.ended outcome)) :
    F (acts ++ [a]) outcome := by
  have hkept := h.after hadmits
  rcases ended_of_act (after_fronts c acts) hended with ⟨signer, config, rfl, hstart⟩ |
    ⟨store, command, client, rfl, hclient, hstart⟩ | ⟨store, client, rfl, hclient, hstart⟩ |
    ⟨number, p, next, rfl, hfound, hmoves⟩
  · have hcomes : Comes _ (F (acts ++ [.connect signer config])) _ := h.connect ha
    rw [hstart] at hcomes
    exact hcomes
  · have hcomes := h.command hclient ha (hkept.clients client (List.mem_of_getElem? hclient))
    rw [hstart] at hcomes
    exact hcomes
  · have hcomes : Comes _ (F (acts ++ [.close store])) _ :=
      h.release ha (hkept.clients client (List.mem_of_getElem? hclient))
    rw [hstart] at hcomes
    exact hcomes
  · exact (h.moved hfound (hkept.pending _ (mem_of_found hfound)) hmoves).2 outcome rfl

end Invariant

/-! ## Acts to look at -/

open Ed25519 (neutralKey) in
/-- Two stores of one account are connected, set off to write and to remove a record, and read their
nonce. One of them will wait for the block. -/
def Act.readers : List Act :=
  [.connect (.neutral neutralKey) {}, .connect (.neutral neutralKey) { submission := .inBlock },
    .move 0, .move 1, .move 0, .move 1, .move 0, .move 1,
    .command 0 (.set [7] [1] [2]), .command 1 (.delete [7] [1]), .move 2, .move 2, .move 3]

/-- Then both hand in their transaction. -/
def Act.race : List Act := readers ++ [.move 2, .move 3]

end Workbench

end MetaLedger
