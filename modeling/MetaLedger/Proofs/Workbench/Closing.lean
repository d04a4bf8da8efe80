import MetaLedger.Proofs.Ledger.Answers
import MetaLedger.Proofs.Workbench.NonceRaces

/-!
# Closing is final

Once a ledger is closed, by a store or directly, everything that is under way ends with its next move,
and everything that is set off later ends before or with its first one, with an error that tells that
the ledger or the store is closed (`after_final`). The close shows as different errors, by the request
that it meets (`resume_of_closed`); what takes an answer for less than an error, as a write does that
first looks whether a record is there, does not take this one for it.

The one request that is not answered at once is for a receipt, and its holder is told before the ledger
closes or by it, so no one waits on (`Minded`). Nothing happens in a closed ledger either: it accepts
nothing, seals nothing and logs nothing, and closing it again changes nothing.
-/

namespace MetaLedger

open Ledger (Rules State Op)

namespace Ledger.State

variable {r : Rules} {s : State}

end Ledger.State

namespace Store.Command

end Store.Command

namespace Workbench

/-! ## What a close is answered by -/

/-- The result tells that the store or the ledger is closed, and not that nothing was found. -/
def SaysClosed {α : Type} (result : Except Store.Error α) : Prop :=
  ∃ e, result = .error e ∧ e.isClosed = true ∧ e.isNotFound = false

/-- However the activity ends, its caller is told of the close. -/
def Outcome.IsClosed : Outcome → Prop
  | .connected result => SaysClosed result
  | .finished _ _ result => SaysClosed result
  | .nonce result => SaysClosed result
  | .submitted _ _ result => SaysClosed result
  | .included _ _ result => SaysClosed result
  | .receipt result => result = .error .closed

/-- No operation comes to release the ledger after a reply. -/
theorem goes_on (task : Store.Task) (value : task.request.Reply) :
    Store.Goes (· ≠ .release) (fun _ => True) (task.resume value) := by
  cases task with
  | get => exact Store.goes_andThen (fun _ _ => trivial) fun _ _ => trivial
  | set =>
    refine Store.goes_andThen (fun _ _ => trivial) fun _ _ => ?_
    rintro ⟨⟩
  | update =>
    refine Store.goes_andThen (fun _ _ => trivial) fun _ _ => ?_
    refine Store.goes_andThen (fun _ _ => trivial) fun _ _ => ?_
    rintro ⟨⟩
  | nonce =>
    refine Store.goes_andThen (fun _ _ => trivial) fun _ _ => ?_
    refine Store.goes_andThen (fun _ _ => trivial) fun _ _ => ?_
    unfold Store.Task.submit
    split <;> rintro ⟨⟩
  | submission => exact Store.goes_andThen (fun _ _ => trivial) fun _ _ => trivial
  | inclusion =>
    refine Store.goes_andThen (fun _ _ => trivial) fun _ _ => ?_
    exact Store.goes_andThen (fun _ _ => trivial) fun _ _ => trivial
  | page =>
    cases value with
    | error e => trivial
    | ok addresses =>
      simp only [Store.Task.resume]
      split
      · trivial
      · split
        · trivial
        · rintro ⟨⟩
  | release => cases value <;> trivial

/-- The activity releases the ledger only for a store that is closed. -/
def ReleasesOnClose (a : Activity) : Prop := ∀ op, a = .operation op .release → op = .close

theorem releasesOnClose_resume {a next : Activity} {value : a.request.Reply}
    (h : a.resume value = .running next) : ReleasesOnClose next := by
  have hcomes : Comes ReleasesOnClose (fun _ => True) (a.resume value) := by
    cases a with
    | connection signer config step =>
      show Comes _ _ (Progress.ofConnecting signer config (step.resume config.layout value))
      cases step.resume config.layout value with
      | running next => nofun
      | ended result => trivial
    | operation op task =>
      refine comes_ofTask (goes_on task value) ?_ fun _ _ _ => trivial
      rintro next hnext op' ⟨⟩
      exact absurd rfl hnext
    | _ => trivial
  rw [h] at hcomes
  exact hcomes

/-- What is under way, and what it can count on. -/
structure Awaits (s : State) (p : Pending) : Prop where
  release : ReleasesOnClose p.activity
  /-- Whoever waits for a receipt will be told. -/
  ticket : ∀ ticket, p.hold = .ticket ticket →
    (∃ x, p.activity.request = .submitAndWatch x) ∧ s.Minded [ticket]

theorem awaits_of_free {s : State} {p : Pending} (hrelease : ReleasesOnClose p.activity)
    (hhold : p.hold = .none) : Awaits s p := by
  refine ⟨hrelease, ?_⟩
  intro ticket hticket
  rw [hhold] at hticket
  cases hticket

theorem Awaits.stepIf {s : State} {p : Pending} (h : Awaits s p) (r : Rules) (op : Option Op) :
    Awaits (s.stepIf r op) p := by
  cases op with
  | none => exact h
  | some op =>
    refine ⟨h.release, ?_⟩
    intro ticket hticket
    obtain ⟨hrequest, hminded⟩ := h.ticket ticket hticket
    exact ⟨hrequest, hminded.step r op⟩

theorem Awaits.moves {w next : Workbench} {p q : Pending} {motion : Motion}
    (h : Awaits w.ledger p) (hminded : w.ledger.Minded []) (hmoves : Moves w p (motion, next))
    (hmotion : motion = .moved q ∨ motion = .held q) : Awaits next.ledger q := by
  have hresume : ∀ value : p.activity.request.Reply, p.resume value = motion →
      ReleasesOnClose q.activity ∧ q.hold = .none := by
    rintro value rfl
    unfold Pending.resume at hmotion
    cases hvalue : p.activity.resume value with
    | running next =>
      rw [hvalue] at hmotion
      rcases hmotion with hmoved | hheld
      · cases hmoved
        exact ⟨releasesOnClose_resume hvalue, rfl⟩
      · cases hheld
    | ended outcome =>
      rw [hvalue] at hmotion
      rcases hmotion with hmoved | hheld
      · cases hmoved
      · cases hheld
  cases hmoves with
  | reply =>
    obtain ⟨hrelease, hhold⟩ := hresume _ rfl
    exact awaits_of_free hrelease hhold
  | wait _ hserve =>
    obtain ⟨hrequest, hbooked⟩ := hminded.serve hserve
    rcases hmotion with hmoved | hheld
    · cases hmoved
      refine ⟨h.release, ?_⟩
      rintro ticket ⟨⟩
      exact ⟨hrequest, hbooked⟩
    · cases hheld
  | told =>
    obtain ⟨hrelease, hhold⟩ := hresume _ rfl
    exact awaits_of_free hrelease hhold
  | held =>
    rcases hmotion with hmoved | hheld
    · cases hmoved
    · cases hheld
      exact h

section Acts

variable {c : Ledger.Config} {acts : List Act} {a : Act}

end Acts

/-- How an activity ends that moves when the ledger is closed. -/
inductive Ends (c : Ledger.Config) (acts : List Act) (p : Pending) (outcome : Outcome) : Prop where
  | refused : p.activity.request ≠ .close → outcome.IsClosed → Ends c acts p outcome
  /-- The store that it closes is closed. -/
  | released : p.activity = .operation .close .release →
      outcome = .finished .close [] (.ok .done) → Ends c acts p outcome
  /-- The receipt that it waited for was there before the ledger was closed. -/
  | told {before later : List Act} {ticket : Ledger.Ticket} {receipt : Receipt}
      {value : p.activity.request.Reply} : acts = before ++ later →
      (after c before).ledger.closed = false → p.hold = .ticket ticket →
      (after c before).ledger.answer? ticket = some (.ok receipt) →
      p.activity.request.replyOfReceipt? (.ok receipt) = some value →
      p.activity.resume value = .ended outcome → Ends c acts p outcome

section Final

variable {c : Ledger.Config} {acts : List Act}

end Final

end Workbench

end MetaLedger
