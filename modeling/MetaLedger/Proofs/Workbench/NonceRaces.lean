import MetaLedger.Proofs.Workbench.Drawing

/-!
# Writers that race for a nonce

The nonce that a write comes with was read for it, so the write never waits in the pool for an earlier
one: it is the next transaction of its account, or it is refused for its nonce (`Decided`). Of several
writes that have read one nonce, the first that comes is accepted and no other (`after_raced`).
-/

namespace MetaLedger.Workbench

open Ledger (Rules State Entries PoolEntry Op)

/-! ## Winning and losing -/

/-- The transaction that is accepted in an act. -/
def accepts (w : Workbench) (a : Act) : List Extrinsic :=
  match w.op? a with
  | some op => w.ledger.accepts w.rules op
  | none => []

theorem accepts_of_op? {w : Workbench} {a : Act} {op : Op} (h : w.op? a = some op) :
    w.accepts a = w.ledger.accepts w.rules op := by
  unfold accepts
  rw [h]

theorem accepts_of_noOp {w : Workbench} {a : Act} (h : w.op? a = none) : w.accepts a = [] := by
  unfold accepts
  rw [h]

/-- The transactions that are accepted in some acts. -/
abbrev accepted (w : Workbench) (acts : List Act) : List Extrinsic := w.noted accepts acts

/-- The transaction is the next one of its account, it is accepted, and the write has not failed. -/
structure Wins (w : Workbench) (a : Act) (x : Extrinsic) : Prop where
  ready : ∃ call, w.ledger.validate w.rules x = .ok (call, .ready)
  accepted : w.accepts a = [x]
  told : ∀ op keys failure, (w.act a).1 ≠ some (.ended (.finished op keys (.error failure)))

/-- The transaction is refused, which is what the write ends with, and the ledger is as it was. -/
structure Loses (w : Workbench) (a : Act) (op : Store.Operation) (reason : Node.Rejection) : Prop where
  told : (w.act a).1 =
    some (.ended (.finished op [] (.error ⟨.submission (.rejected reason), some (op, .submit)⟩)))
  ledger : (w.act a).2.ledger = w.ledger

section Handing

variable {w : Workbench} (hfronts : w.fronts = []) {number : Nat} {p : Pending}
  (hfound : w.found number = some p) (hfree : p.isFree = true)

include hfronts hfound hfree

theorem act_of_reply {value : p.activity.request.Reply} {next : State}
    (hserve : w.ledger.serve w.rules p.activity.request = (.reply value, next)) :
    w.act (.move number) = Prod.map some id
      (({ w with ledger := next } : Workbench).conclude number p.front (p.resume value)) := by
  obtain ⟨motion, after, hmoves, hadvance⟩ := advance_of_found hfronts hfound
  show Prod.map some id (w.advance number) = _
  rw [hadvance]
  cases hmoves with
  | reply _ hserved =>
    rw [hserve] at hserved
    cases hserved
    rfl
  | wait _ hserved =>
    rw [hserve] at hserved
    cases hserved
  | told hheld =>
    rw [hfree] at hheld
    cases hheld
  | held hheld =>
    rw [hfree] at hheld
    cases hheld

theorem act_of_wait {ticket : Ledger.Ticket} {next : State}
    (hserve : w.ledger.serve w.rules p.activity.request = (.waiting ticket, next)) :
    (w.act (.move number)).1 = some (.pending number) := by
  obtain ⟨motion, after, hmoves, hadvance⟩ := advance_of_found hfronts hfound
  show some (w.advance number).1 = _
  rw [hadvance]
  cases hmoves with
  | reply _ hserved =>
    rw [hserve] at hserved
    cases hserved
  | wait => rfl
  | told hheld =>
    rw [hfree] at hheld
    cases hheld
  | held hheld =>
    rw [hfree] at hheld
    cases hheld

end Handing

namespace HandsIn

variable {r : Rules} {s : State} {op : Store.Operation} {x : Extrinsic} {a : Activity} {watched : Bool}

/-- The write ends with the ledger's refusal. -/
theorem resume_refused (h : HandsIn op x a watched) {reason : Node.Rejection}
    (hsubmit : s.submit r x watched = (.error (.rejected reason), s)) :
    ∃ value, s.serve r a.request = (.reply value, s) ∧
      a.resume value = .ended (.finished op []
        (.error ⟨.submission (.rejected reason), some (op, .submit)⟩)) := by
  cases h with
  | pool =>
    refine ⟨.error (.rejected reason), ?_, rfl⟩
    simp only [State.serve, hsubmit]
  | inBlock kind =>
    refine ⟨.error (.rejected reason), ?_, rfl⟩
    simp only [State.serve, hsubmit]

/-- The write is done, or waits for the block. -/
theorem resume_accepted (h : HandsIn op x a watched) {next : State}
    (hsubmit : s.submit r x watched = (.ok x.hash, next)) :
    (∃ value, s.serve r a.request = (.reply value, next) ∧
      a.resume value = .ended (.finished op [] (.ok .done))) ∨
    ∃ ticket, s.serve r a.request = (.waiting ticket, next) := by
  cases h with
  | pool =>
    refine .inl ⟨.ok x.hash, ?_, rfl⟩
    simp only [State.serve, hsubmit]
  | inBlock kind =>
    refine .inr ⟨s.nextTicket, ?_⟩
    simp only [State.serve, hsubmit]

end HandsIn

section Handing

variable {w : Workbench} (hfronts : w.fronts = []) {number : Nat} {p : Pending}
  (hfound : w.found number = some p) (hfree : p.isFree = true)
  {op : Store.Operation} {x : Extrinsic} {watched : Bool}
  (hhands : HandsIn op x p.activity watched) (hopen : w.ledger.closed = false)

include hfronts hfound hfree hhands hopen

theorem loses_of_invalid {reason : Node.Rejection}
    (hinvalid : w.ledger.validate w.rules x = .error reason) : Loses w (.move number) op reason := by
  have hsubmit := State.submit_of_error hopen hinvalid watched
  obtain ⟨value, hserve, hresume⟩ := hhands.resume_refused hsubmit
  have hact := act_of_reply hfronts hfound hfree hserve
  have hended : p.resume value = .ended (.finished op []
      (.error ⟨.submission (.rejected reason), some (op, .submit)⟩)) := by
    unfold Pending.resume
    rw [hresume]
  rw [hended] at hact
  constructor
  · rw [hact]
    rfl
  · rw [hact]
    rfl

theorem wins_of_valid {call : Call} (hvalid : w.ledger.validate w.rules x = .ok (call, .ready)) :
    Wins w (.move number) x := by
  have hsubmit := State.submit_of_ok hopen hvalid watched
  refine ⟨⟨call, hvalid⟩, ?_, ?_⟩
  · have hop : w.op? (.move number) = some (.submit x watched) := by
      rw [op?_move hfound, hfree, if_pos rfl, hhands.op?_eq]
    rw [accepts_of_op? hop]
    simp only [State.accepts, hsubmit]
  · intro op' keys failure htold
    rcases hhands.resume_accepted hsubmit with ⟨value, hserve, hresume⟩ | ⟨ticket, hserve⟩
    · have hended : p.resume value = .ended (.finished op [] (.ok .done)) := by
        unfold Pending.resume
        rw [hresume]
      rw [act_of_reply hfronts hfound hfree hserve, hended] at htold
      cases htold
    · rw [act_of_wait hfronts hfound hfree hserve] at htold
      cases htold

end Handing

/-! ## What becomes of a write -/

/-- A write comes with a nonce that it has read. It wins, or it loses because of its nonce; or because its
call is too long to be written as one that can be read. -/
structure Decided (c : Ledger.Config) (acts : List Act) (number : Nat) (op : Store.Operation)
    (x : Extrinsic) : Prop where
  read : ∃ e, (number, e) ∈ (Workbench.ofConfig c).reads acts ∧
    x.nonce = (Rules.ofConfig c).nonce e x.signer
  result : Wins (after c acts) (.move number) x ∨
    ∃ reason, Loses (after c acts) (.move number) op reason ∧
      (reason = .stale ∨ reason = .priorityTooLow ∨
        reason = .malformed ∧ ∃ call, ¬call.Short ∧ x.call = c.session.encodeCall call)

/-- From here on, whoever hands in a transaction of the account is a store that has read the nonce from
the entries of now, somebody does so with a call that can be read, and nothing of the account is in the
pool. -/
structure Contested (c : Ledger.Config) (before later : List Act) (a : AccountId) : Prop where
  alone : ∀ e ∈ (after c before).ledger.ready ++ (after c before).ledger.future, e.signer ≠ a
  readers : ∀ earlier act rest, later = earlier ++ act :: rest → ∀ x watched,
    (after c (before ++ earlier)).op? act = some (.submit x watched) → x.signer = a →
      ∃ number, act = .move number ∧
        (number, (after c before).ledger.best) ∈ (Workbench.ofConfig c).reads (before ++ earlier)
  someone : ∃ earlier act rest x watched, later = earlier ++ act :: rest ∧
    (after c (before ++ earlier)).op? act = some (.submit x watched) ∧ x.signer = a ∧
      ((Rules.ofConfig c).call? x.call).isSome

/-- How races for nonces end. -/
structure Raced (c : Ledger.Config) (acts : List Act) : Prop where
  /-- Whatever a store does with the ledger is a write that is decided. -/
  writes : ∀ before number later, acts = before ++ .move number :: later → ∀ done,
    (after c before).op? (.move number) = some done →
      ∃ op x watched, done = .submit x watched ∧ Decided c before number op x
  /-- What waits for an earlier nonce was handed in directly. -/
  held : ∀ e ∈ (after c acts).ledger.future, ∃ before watched later,
    acts = before ++ .direct (.submit e.extrinsic watched) :: later
  /-- No two accepted transactions share account and nonce. -/
  apart : ((Workbench.ofConfig c).accepted acts).Pairwise fun x y =>
    ¬(x.signer = y.signer ∧ x.nonce = y.nonce)
  /-- Of those who have read one nonce, one is accepted. -/
  winner : ∀ before later, acts = before ++ later → ∀ a, Contested c before later a →
    ((after c before).accepted later).countP (·.signer = a) = 1

section Decided

variable {c : Ledger.Config} (layout : c.layout.Distinct) (indices : c.indices.Distinct)
  (separate : (StorageKeys.ofLayout c.layout).Separate) (free : c.requireFunded = false)
  {acts : List Act} (hraces : ∀ a ∈ acts, a.Races c) (few : Op.Few ((Workbench.ofConfig c).ops acts))

include indices in
theorem Drawn.long {number : Nat} {x : Extrinsic} {e : Entries} (h : Drawn c acts number x e)
    (hunread : (Rules.ofConfig c).call? x.call = none) :
    ∃ call, ¬call.Short ∧ x.call = c.session.encodeCall call := by
  obtain ⟨call, hcall⟩ := h.call
  refine ⟨call, ?_, hcall⟩
  intro hshort
  have hread := Rules.call?_encodeAt (r := Rules.ofConfig c) indices hshort
  have hindex : c.session.callIndex call.kind = (Rules.ofConfig c).indices.callIndex call.kind :=
    c.session_callIndex call.kind
  unfold Store.Session.encodeCall at hcall
  rw [hindex] at hcall
  rw [hcall, hread] at hunread
  cases hunread

include separate free few in
/-- A nonce that was read does not wait for others. -/
theorem Drawn.validate_cases {number : Nat} {x : Extrinsic} {e : Entries}
    (h : Drawn c acts number x e) :
    (∃ call, (after c acts).ledger.validate (Rules.ofConfig c) x = .ok (call, .ready)) ∨
      (after c acts).ledger.validate (Rules.ofConfig c) x = .error .stale ∨
      (after c acts).ledger.validate (Rules.ofConfig c) x = .error .priorityTooLow ∨
      (after c acts).ledger.validate (Rules.ofConfig c) x = .error .malformed ∧
        (Rules.ofConfig c).call? x.call = none := by
  refine (steady_after separate few).validate_cases free ⟨(), h.verified⟩ ?_
  rw [h.nonce]
  exact h.since

include layout indices separate free hraces few in
theorem decided_of_move {number : Nat} {done : Op}
    (hdone : (after c acts).op? (.move number) = some done) :
    ∃ op x watched, done = .submit x watched ∧ Decided c acts number op x := by
  obtain ⟨p, op, x, watched, e, hfound, hfree, rfl, hhands, hdrawn⟩ :=
    handsIn_of_move layout separate hraces hdone
  have hfronts := after_fronts c acts
  have hrules := after_rules c acts
  have hopen := open_after layout separate hraces
  have hloses : ∀ reason, (after c acts).ledger.validate (Rules.ofConfig c) x = .error reason →
      Loses (after c acts) (.move number) op reason := by
    intro reason hinvalid
    rw [← hrules] at hinvalid
    exact loses_of_invalid hfronts hfound hfree hhands hopen hinvalid
  refine ⟨op, x, watched, rfl, ⟨e, hdrawn.read, hdrawn.nonce⟩, ?_⟩
  rcases hdrawn.validate_cases separate free few with ⟨call, hvalid⟩ | hstale | hlow |
    ⟨hmalformed, hunread⟩
  · rw [← hrules] at hvalid
    exact .inl (wins_of_valid hfronts hfound hfree hhands hopen hvalid)
  · exact .inr ⟨_, hloses _ hstale, .inl rfl⟩
  · exact .inr ⟨_, hloses _ hlow, .inr (.inl rfl)⟩
  · exact .inr ⟨_, hloses _ hmalformed, .inr (.inr ⟨rfl, hdrawn.long indices hunread⟩)⟩

include layout separate free hraces few in
theorem direct_of_future {e : PoolEntry} (he : e ∈ (after c acts).ledger.future) :
    ∃ before watched later, acts = before ++ .direct (.submit e.extrinsic watched) :: later := by
  induction acts using List.reverseRec with
  | nil => cases he
  | append_singleton acts a ih =>
    have hraces' : ∀ b ∈ acts, b.Races c := fun b hb => hraces b (List.mem_append_left _ hb)
    have few' := few_before few
    have hbefore : e ∈ (after c acts).ledger.future →
        ∃ before watched later, acts ++ [a] = before ++ .direct (.submit e.extrinsic watched) :: later := by
      intro hmem
      obtain ⟨before, watched, later, rfl⟩ := ih hraces' few' hmem
      exact ⟨before, watched, later ++ [a], by rw [List.append_assoc, List.cons_append]⟩
    rw [ledger_concat] at he
    cases hop : (after c acts).op? a with
    | none =>
      rw [hop] at he
      exact hbefore he
    | some done =>
      rw [hop] at he
      rcases State.mem_future_step he with hmem | ⟨x, watched, call, rfl, hvalid, hx⟩
      · exact hbefore hmem
      · cases a with
        | direct op =>
          cases hop
          exact ⟨acts, watched, [], by rw [hx]⟩
        | move number =>
          -- A write would not have been told to wait.
          obtain ⟨p, op, x', watched', e', -, -, hsame, -, hdrawn⟩ :=
            handsIn_of_move layout separate hraces' hop
          cases hsame
          rcases hdrawn.validate_cases separate free few' with ⟨_, h⟩ | h | h | ⟨h, -⟩ <;>
          · rw [hvalid] at h
            cases h
        | _ => cases hop

/-! ## One winner -/

/-- A chronicle that is kept while the acts happen tells what is accepted in them. -/
theorem chronicle_accepted {r : Rules} {w : Workbench} (hrules : w.rules = r) (hfronts : w.fronts = [])
    {h : Ledger.Chronicle} (hstate : h.state = w.ledger) (acts : List Act) :
    (h.run r (w.ops acts)).accepted = h.accepted ++ w.accepted acts := by
  subst hrules
  induction acts generalizing w h with
  | nil => exact (List.append_nil _).symm
  | cons a acts ih =>
    obtain ⟨hledger, hrules, hnext⟩ := act_state hfronts a
    rw [ops, noted, accepted, noted]
    cases hop : w.op? a with
    | none =>
      rw [hop] at hledger
      rw [accepts_of_noOp hop, ← hrules]
      exact ih hnext (hstate.trans hledger.symm)
    | some op =>
      rw [hop] at hledger
      have hstep : (h.step w.rules op).state = (w.act a).2.ledger := by
        rw [hledger, ← hstate]
        rfl
      have hrest := ih hnext hstep
      rw [hrules] at hrest
      rw [accepts_of_op? hop, ← hstate, ← List.append_assoc]
      exact hrest

theorem untouched_perform {r : Rules} (separate : r.keys.Separate) {a : AccountId} {n : Nonce}
    {w : Workbench} (hrules : w.rules = r) (hfronts : w.fronts = [])
    (h : State.Untouched r a n w.ledger) (acts : List Act)
    (hnone : ∀ x ∈ w.accepted acts, x.signer ≠ a) :
    State.Untouched r a n (w.perform acts).ledger := by
  induction acts generalizing w with
  | nil => exact h
  | cons b acts ih =>
    obtain ⟨hledger, hrules', hnext⟩ := act_state hfronts b
    refine ih (hrules'.trans hrules) hnext ?_ fun x hx => hnone x (List.mem_append_right _ hx)
    rw [hledger, hrules]
    cases hop : w.op? b with
    | none => exact h
    | some op =>
      refine h.step separate op fun x hx => hnone x (List.mem_append_left _ ?_)
      rw [accepts_of_op? hop, hrules]
      exact hx

/-- Who is accepted has been handed in. -/
theorem op?_of_mem_accepts {w : Workbench} {a : Act} {x : Extrinsic} (h : x ∈ w.accepts a) :
    ∃ watched, w.op? a = some (.submit x watched) := by
  cases hop : w.op? a with
  | none =>
    rw [accepts_of_noOp hop] at h
    cases h
  | some op =>
    rw [accepts_of_op? hop] at h
    cases op with
    | submit y watched =>
      simp only [State.accepts] at h
      split at h
      · rw [List.mem_singleton.1 h]
        exact ⟨watched, rfl⟩
      · cases h
    | _ => cases h

theorem mem_accepts_of_valid {w : Workbench} {a : Act} {x : Extrinsic} {watched : Bool} {call : Call}
    {placement : Ledger.Placement} (hop : w.op? a = some (.submit x watched))
    (hopen : w.ledger.closed = false) (hvalid : w.ledger.validate w.rules x = .ok (call, placement)) :
    x ∈ w.accepts a := by
  have hsubmit := State.submit_of_ok hopen hvalid watched
  rw [accepts_of_op? hop]
  simp only [State.accepts, hsubmit, List.mem_singleton]

include layout separate hraces few in
theorem accepted_apart : ((Workbench.ofConfig c).accepted acts).Pairwise fun x y =>
    ¬(x.signer = y.signer ∧ x.nonce = y.nonce) := by
  have hchronicle := chronicle_accepted (r := Rules.ofConfig c) (w := Workbench.ofConfig c) rfl rfl
    (h := Ledger.Chronicle.initial (Rules.ofConfig c)) rfl acts
  rw [show (Ledger.Chronicle.initial (Rules.ofConfig c)).accepted = [] from rfl, List.nil_append]
    at hchronicle
  rw [← hchronicle]
  have few' : 0 + Op.submissions ((Workbench.ofConfig c).ops acts) < UInt32.size - 1 := by
    rw [Nat.zero_add]
    exact few
  have hkept := Ledger.Chronicle.kept_run separate (h := Ledger.Chronicle.initial (Rules.ofConfig c))
    (Ledger.Chronicle.Kept.initial (Rules.ofConfig c)) (State.Steady.initial (Rules.ofConfig c))
    ((Workbench.ofConfig c).ops acts) (close_notMem_ops layout separate hraces) few'
  have hsteady := steady_after separate few
  rw [after_ledger] at hsteady
  have hstate := Ledger.Chronicle.run_state (Rules.ofConfig c)
    (Ledger.Chronicle.initial (Rules.ofConfig c)) ((Workbench.ofConfig c).ops acts)
  have haccounted := hkept.accounted (hstate ▸ hsteady)
  exact haccounted.accepted_apart

theorem length_le_one_of_pairwise {α : Type} {R : α → α → Prop} {l : List α}
    (hapart : l.Pairwise fun x y => ¬R x y) (hall : ∀ x ∈ l, ∀ y ∈ l, R x y) : l.length ≤ 1 := by
  match l with
  | [] => exact Nat.zero_le 1
  | [_] => exact Nat.le_refl 1
  | x :: y :: rest =>
    have hy : y ∈ x :: y :: rest := List.mem_cons_of_mem _ List.mem_cons_self
    exact absurd (hall x List.mem_cons_self y hy) ((List.pairwise_cons.1 hapart).1 y List.mem_cons_self)

variable {before later : List Act} {a : AccountId}

theorem races_before {earlier rest : List Act} {act : Act}
    (hraces : ∀ b ∈ before ++ (earlier ++ act :: rest), b.Races c) :
    ∀ b ∈ before ++ earlier, b.Races c := by
  intro b hb
  refine hraces b ?_
  rw [← List.append_assoc]
  exact List.mem_append_left _ hb

include layout separate in
/-- Whatever is handed in for the account carries the nonce of the entries that were read. -/
theorem Contested.nonce_eq (h : Contested c before later a)
    (hraces : ∀ b ∈ before ++ later, b.Races c) {earlier rest : List Act} {act : Act}
    (hlater : later = earlier ++ act :: rest) {x : Extrinsic} {watched : Bool}
    (hop : (after c (before ++ earlier)).op? act = some (.submit x watched)) (hsigner : x.signer = a) :
    x.nonce = (Rules.ofConfig c).nonce (after c before).ledger.best a ∧
      x.verify (Rules.ofConfig c).chain = .ok () := by
  obtain ⟨number, rfl, hread⟩ := h.readers earlier act rest hlater x watched hop hsigner
  subst hlater
  have hraces' := races_before hraces
  obtain ⟨p, op, x', watched', e, -, -, hsame, -, hdrawn⟩ := handsIn_of_move layout separate hraces' hop
  cases hsame
  refine ⟨?_, hdrawn.verified⟩
  rw [hdrawn.nonce, reads_unique layout separate hraces' hdrawn.read hread, hsigner]

include layout separate in
theorem Contested.nonce_of_accepted (h : Contested c before later a)
    (hraces : ∀ b ∈ before ++ later, b.Races c) {x : Extrinsic}
    (hx : x ∈ (after c before).accepted later) (hsigner : x.signer = a) :
    x.nonce = (Rules.ofConfig c).nonce (after c before).ledger.best a := by
  obtain ⟨earlier, act, rest, hlater, haccepts⟩ := exists_act_of_mem_noted hx
  rw [← after_append] at haccepts
  obtain ⟨watched, hop⟩ := op?_of_mem_accepts haccepts
  exact (h.nonce_eq layout separate hraces hlater hop hsigner).1

include layout separate free in
/-- Somebody is accepted, since otherwise the account would stay as it is, and the next one would be. -/
theorem Contested.exists_accepted (h : Contested c before later a)
    (hraces : ∀ b ∈ before ++ later, b.Races c) :
    ∃ x ∈ (after c before).accepted later, x.signer = a := by
  obtain ⟨earlier, act, rest, x, watched, hlater, hop, hsigner, hcall⟩ := h.someone
  obtain ⟨hnonce, hverify⟩ := h.nonce_eq layout separate hraces hlater hop hsigner
  obtain ⟨call, hcall⟩ := Option.isSome_iff_exists.1 hcall
  subst hlater
  by_contra hnone
  push Not at hnone
  -- Up to `act` nothing of the account is accepted, so `x` comes with the nonce that is due.
  have huntouched : State.Untouched (Rules.ofConfig c) a
      ((Rules.ofConfig c).nonce (after c before).ledger.best a) (after c (before ++ earlier)).ledger := by
    rw [after_append]
    refine untouched_perform separate (after_rules c before) (after_fronts c before) ⟨h.alone, rfl⟩
      earlier ?_
    intro y hy
    refine hnone y ?_
    rw [accepted, noted_append]
    exact List.mem_append_left _ hy
  have hvalid := huntouched.validate free ⟨(), hverify⟩ hcall hsigner hnonce
  rw [← after_rules c (before ++ earlier)] at hvalid
  have hopen := open_after layout separate (races_before hraces)
  have hmem := mem_accepts_of_valid hop hopen hvalid
  refine hnone x ?_ hsigner
  rw [accepted, noted_append, noted]
  refine List.mem_append_right _ (List.mem_append_left _ ?_)
  rw [← after_append]
  exact hmem

include layout separate free in
theorem Contested.countP_accepted (h : Contested c before later a)
    (hraces : ∀ b ∈ before ++ later, b.Races c)
    (few : Op.Few ((Workbench.ofConfig c).ops (before ++ later))) :
    ((after c before).accepted later).countP (·.signer = a) = 1 := by
  have hapart := accepted_apart layout separate hraces few
  rw [accepted, noted_append] at hapart
  have hlater := (List.pairwise_append.1 hapart).2.1.filter fun x => decide (x.signer = a)
  obtain ⟨x, hx, hsigner⟩ := h.exists_accepted layout separate free hraces
  have hone : (((after c before).accepted later).filter fun x => decide (x.signer = a)).length ≤ 1 := by
    refine length_le_one_of_pairwise hlater ?_
    intro y hy z hz
    obtain ⟨hy, hsignery⟩ := List.mem_filter.1 hy
    obtain ⟨hz, hsignerz⟩ := List.mem_filter.1 hz
    have hsignery : y.signer = a := of_decide_eq_true hsignery
    have hsignerz : z.signer = a := of_decide_eq_true hsignerz
    have hnoncey := h.nonce_of_accepted layout separate hraces hy hsignery
    have hnoncez := h.nonce_of_accepted layout separate hraces hz hsignerz
    exact ⟨hsignery.trans hsignerz.symm, hnoncey.trans hnoncez.symm⟩
  have hsome : 0 < ((after c before).accepted later).countP (·.signer = a) :=
    List.countP_pos_iff.2 ⟨x, hx, decide_eq_true hsigner⟩
  rw [List.countP_eq_length_filter] at hsome ⊢
  exact Nat.le_antisymm hone hsome

end Decided

/-- **Nonce races have one winner.** However the reads and writes of any number of stores fall between each
other, between blocks and between what is handed in directly, and as long as the nonces suffice: a store's
write is accepted as the next one of its account, or it is refused as stale or as taken and leaves no
trace; no two accepted transactions share account and nonce; and of the writes that have read one nonce,
with nothing of the account in the pool, one is accepted. -/
theorem after_raced (c : Ledger.Config) (layout : c.layout.Distinct) (indices : c.indices.Distinct)
    (separate : (StorageKeys.ofLayout c.layout).Separate) (free : c.requireFunded = false)
    (acts : List Act) (hraces : ∀ a ∈ acts, a.Races c)
    (few : Op.Few ((Workbench.ofConfig c).ops acts)) : Raced c acts where
  writes := by
    rintro before number later rfl done hdone
    have hbefore : ∀ b ∈ before, b.Races c := fun b hb => hraces b (List.mem_append_left _ hb)
    exact decided_of_move layout indices separate free hbefore (few_before few) hdone
  held _ he := direct_of_future layout separate free hraces few he
  apart := accepted_apart layout separate hraces few
  winner := by
    rintro before later rfl a hcontested
    exact hcontested.countP_accepted layout separate free hraces few

theorem truthful_neutral {key : Fixed 32} (h : Ed25519.NamesNeutral key) :
    (Signer.neutral key).Truthful := by
  rintro payload _ ⟨⟩
  exact Ed25519.verify_neutral h payload

/-- Two writes that have read their nonce from the entries of now, and are next to hand in. -/
theorem contested_of_readers {c : Ledger.Config} {before : List Act} {a : AccountId} {first second : Nat}
    {x : Extrinsic} {watched : Bool}
    (hempty : (after c before).ledger.ready ++ (after c before).ledger.future = [])
    (hfirst : (first, (after c before).ledger.best) ∈ (Workbench.ofConfig c).reads before)
    (hsecond : (second, (after c before).ledger.best) ∈ (Workbench.ofConfig c).reads before)
    (hop : (after c before).op? (.move first) = some (.submit x watched)) (hsigner : x.signer = a)
    (hcall : ((Rules.ofConfig c).call? x.call).isSome) :
    Contested c before [.move first, .move second] a := by
  refine ⟨?_, ?_, ?_⟩
  · rw [hempty]
    nofun
  · intro earlier act rest heq y watched' _ _
    rcases List.cons_eq_append_iff.1 heq with ⟨rfl, hrest⟩ | ⟨earlier', rfl, hrest⟩
    · obtain ⟨rfl, -⟩ := List.cons.inj hrest
      refine ⟨first, rfl, ?_⟩
      rw [List.append_nil]
      exact hfirst
    · rcases List.cons_eq_append_iff.1 hrest with ⟨rfl, hlast⟩ | ⟨earlier'', rfl, hlast⟩
      · obtain ⟨rfl, -⟩ := List.cons.inj hlast
        refine ⟨second, rfl, ?_⟩
        rw [reads_concat]
        exact List.mem_append_left _ hsecond
      · exact absurd hlast (List.append_ne_nil_of_right_ne_nil _ (List.cons_ne_nil _ _)).symm
  · refine ⟨[], .move first, [.move second], x, watched, rfl, ?_, hsigner, hcall⟩
    rw [List.append_nil]
    exact hop

theorem after_raced_race :
    let c : Ledger.Config := {}
    let account : AccountId := ⟨Ed25519.neutralKey⟩
    Raced c Act.race ∧ Contested c Act.readers [.move 2, .move 3] account ∧
      ((after c Act.readers).accepted [.move 2, .move 3]).countP (·.signer = account) = 1 := by
  intro c account
  have layout : c.layout.Distinct := ⟨by decide, by decide⟩
  have indices : c.indices.Distinct := by decide
  have separate : (StorageKeys.ofLayout c.layout).Separate := by decide +kernel
  have hraces : ∀ a ∈ Act.race, a.Races c := by
    simp only [Act.race, Act.readers, List.cons_append, List.nil_append, List.forall_mem_cons,
      List.not_mem_nil, false_imp_iff, implies_true, and_true]
    have htruthful := truthful_neutral Ed25519.neutralKey_namesNeutral
    exact ⟨⟨htruthful, rfl⟩, ⟨htruthful, rfl⟩, trivial, trivial, trivial, trivial, trivial, trivial,
      trivial, trivial, trivial, trivial, trivial, trivial, trivial⟩
  have few : Op.Few ((Workbench.ofConfig c).ops Act.race) := by
    have hlength : Act.race.length < UInt32.size - 1 := by decide
    exact Nat.lt_of_le_of_lt (Nat.le_trans List.countP_le_length (length_ops_le _ _)) hlength
  have hraced := after_raced c layout indices separate rfl Act.race hraces few
  have hcontested : Contested c Act.readers [.move 2, .move 3] account := by
    let x : Extrinsic :=
      .neutral Ed25519.neutralKey 0 ((Call.set [7] [1] [2]).encodeAt ⟨8, 0⟩)
    have hop : (after c Act.readers).op? (.move 2) = some (.submit x false) := by decide +kernel
    refine contested_of_readers ?_ ?_ ?_ hop rfl ?_
    · decide +kernel
    · decide +kernel
    · decide +kernel
    · decide +kernel
  exact ⟨hraced, hcontested, hraced.winner Act.readers _ rfl account hcontested⟩

end MetaLedger.Workbench
