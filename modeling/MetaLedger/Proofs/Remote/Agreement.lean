import MetaLedger.Proofs.Remote.Queries
import MetaLedger.Proofs.Store.Enumeration
import MetaLedger.Proofs.Store.Steps

/-!
# A remote ledger is the ledger

A client whose other side answers from a ledger gets the ledger's answers, and no others
(`Honest.serve_answer`, `Honest.serve_refusal`). So an operation that only reads goes through the same
stages over the client as over the ledger, reply by reply (`remotely_agrees`), and it ends
(`Command.Fetches.ends`): a page that is full leaves fewer addresses for the pages after it.
-/

namespace MetaLedger.Remote

open Ledger (Rules State)

section Ask

variable {net : Network} {c : Client} {request : Node.Request} {q : Query request}

theorem serve_of_post (h : route request = .post q) : c.serve net request = c.ask net q := by
  unfold Client.serve
  rw [h]

theorem closed_ask (q : Query request) : (c.ask net q).2.closed = c.closed := by
  unfold Client.ask
  split
  · rfl
  · simp only
    split
    · rfl
    · split <;> rfl

variable (hopen : c.closed = false)

include hopen

theorem ask_of_result {response : Response} {result : Json}
    (hpost : net.post (q.body c.nextId) = some response) (hresult : response.result = .ok result) :
    (c.ask net q).1 = q.read result := by
  unfold Client.ask
  simp only [hopen, hpost, hresult, if_neg Bool.false_ne_true]

theorem ask_of_refusal (h : Refusal (net.post (q.body c.nextId))) :
    ∃ e, (c.ask net q).1 = .error e := by
  unfold Client.ask
  simp only [hopen, if_neg Bool.false_ne_true]
  generalize net.post (q.body c.nextId) = posted at h
  cases h with
  | silent => exact ⟨_, rfl⟩
  | @status response hstatus =>
    have hresult : response.result = _ := if_neg (Bool.eq_false_iff.1 hstatus)
    simp only [hresult]
    exact ⟨_, rfl⟩
  | error hbody hmember herror =>
    obtain ⟨e, hresult⟩ := result_of_error hbody hmember herror
    simp only [hresult]
    exact ⟨e, rfl⟩

end Ask

section Serve

variable {r : Rules} {s : State} {net : Network} {c : Client} {request : Node.Request}
  (hreads : Reading request)

include hreads

theorem Reading.serve_eq (r : Rules) (s : State) :
    ∃ reply, s.serve r request = (.reply reply, s) := by
  cases hreads <;> exact ⟨_, rfl⟩

theorem Reading.closed_serve : (c.serve net request).2.closed = c.closed := by
  obtain ⟨q, hroute, -⟩ := exists_carries hreads
  rw [serve_of_post hroute]
  exact closed_ask q

variable (hopen : c.closed = false)

include hopen

theorem Honest.serve_answer (honest : Honest r s net) {answer : request.Answer}
    (hanswer : (s.serve r request).1 = .reply (.ok answer)) :
    (c.serve net request).1 = .ok answer := by
  obtain ⟨q, hroute, hcarries⟩ := exists_carries hreads
  obtain ⟨response, front, back, hpost, hstatus, hbody, hothers⟩ :=
    honest.answers _ _ answer (hcarries.asked c.nextId) hanswer
  have hresult := result_of_presented hstatus hbody hothers (normal?_present request answer)
  rw [serve_of_post hroute, ask_of_result hopen hpost hresult]
  exact hcarries.read answer

theorem Honest.serve_refusal (honest : Honest r s net) {e : Node.Error}
    (hrefusal : (s.serve r request).1 = .reply (.error e)) :
    ∃ e, (c.serve net request).1 = .error e := by
  obtain ⟨q, hroute, hcarries⟩ := exists_carries hreads
  rw [serve_of_post hroute]
  exact ask_of_refusal hopen (honest.refuses _ _ e (hcarries.asked c.nextId) hrefusal)

theorem Honest.serve_eq_ok_iff (honest : Honest r s net) (answer : request.Answer) :
    (c.serve net request).1 = .ok answer ↔ (s.serve r request).1 = .reply (.ok answer) := by
  refine ⟨fun hclient => ?_, honest.serve_answer hreads hopen⟩
  obtain ⟨reply, hreply⟩ := hreads.serve_eq r s
  cases reply with
  | ok found =>
    have hfound := honest.serve_answer hreads hopen (congrArg Prod.fst hreply)
    rw [hclient] at hfound
    cases hfound
    exact congrArg Prod.fst hreply
  | error e =>
    obtain ⟨found, hfound⟩ := honest.serve_refusal hreads hopen (congrArg Prod.fst hreply)
    rw [hclient] at hfound
    cases hfound

end Serve

end MetaLedger.Remote

namespace MetaLedger.Store

open Ledger (Rules State)
open Remote (Network Client Reading Honest)

/-! ## Operations that only read -/

/-- Goes on with the replies that a client gets, to as many requests as `n`. -/
def Progress.remotely (net : Network) : Nat → Client → Progress → Progress
  | n + 1, c, running task =>
    remotely net n (c.serve net task.request).2 (task.resume (c.serve net task.request).1)
  | _, _, p => p

/-- The task reads a record or a page and writes nothing after it. -/
def Task.Fetches : Task → Prop
  | .get .. | .page .. => True
  | _ => False

def Progress.Fetches : Progress → Prop
  | running task => task.Fetches
  | ended .. => True

/-- The command reads and writes nothing. -/
def Command.Fetches : Command → Prop
  | .get .. | .listKeys _ => True
  | _ => False

theorem Begins.fetches {o : Opened} {command : Command} {task : Task} (h : Begins o command task)
    (hcommand : command.Fetches) : task.Fetches := by
  cases h with
  | get | listKeys => trivial
  | set | delete | update => exact hcommand.elim

theorem Command.Fetches.start {command : Command} (h : command.Fetches) (store : Store) :
    (command.start store).Fetches := by
  rcases start_cases store command with ⟨-, hstart⟩ | ⟨failure, hstart⟩ | ⟨_, task, -, hbegins, hstart⟩
  · rw [hstart]
    trivial
  · rw [hstart]
    trivial
  · rw [hstart]
    exact hbegins.fetches h

section Task

variable {task : Task} (h : task.Fetches)

include h

theorem Task.Fetches.reading : Reading task.request := by
  cases task with
  | get o address => exact .storage address none
  | page o start after delivered => exact .keys start o.config.pageSize after none
  | _ => exact h.elim

theorem Task.Fetches.resume (reply : task.request.Reply) : (task.resume reply).Fetches := by
  cases task with
  | get o address =>
    simp only [Task.resume]
    cases dataOfReply .get reply <;> trivial
  | page o start after delivered =>
    cases reply with
    | error e => trivial
    | ok addresses =>
      simp only [Task.resume]
      split
      · trivial
      · split <;> trivial
  | _ => exact h.elim

/-- On any failure of the node the task fails, with what it has delivered before. -/
theorem Task.Fetches.resume_error (e : Node.Error) :
    ∃ failure, task.resume (.error e) = .ended (Progress.running task).delivered (.error failure) := by
  cases task with
  | get o address => exact ⟨_, rfl⟩
  | page o start after delivered => exact ⟨_, rfl⟩
  | _ => exact h.elim

/-- Only a closed ledger refuses. -/
theorem Task.Fetches.closed_of_error {r : Rules} {s next : State} {e : Node.Error}
    (hserve : s.serve r task.request = (.reply (.error e), next)) : s.closed = true := by
  by_contra hnot
  have hopen := Bool.eq_false_iff.2 hnot
  cases task with
  | get o address =>
    rw [serve_storage hopen] at hserve
    cases hserve
  | page o start after delivered =>
    rw [serve_keys hopen] at hserve
    cases hserve
  | _ => exact h.elim

end Task

/-! ## Stage by stage -/

/-- Two operations at the same point, or, where the ledger is closed, two that have failed with the same
keys delivered. -/
inductive Agree (s : State) : Progress → Progress → Prop where
  | same (p : Progress) : Agree s p p
  | failed (hclosed : s.closed = true) (keys : List Bytes) (e f : Error) :
      Agree s (.ended keys (.error e)) (.ended keys (.error f))

theorem Progress.remotely_ended (net : Network) (n : Nat) (c : Client) (keys : List Bytes)
    (result : Except Error Output) :
    (Progress.ended keys result).remotely net n c = .ended keys result := by
  cases n <;> rfl

/-- After as many replies from the one as from the other, an operation that reads is at the same point. -/
theorem remotely_agrees {r : Rules} {s : State} {net : Network} (honest : Honest r s net) (n : Nat)
    {p : Progress} (hp : p.Fetches) {c : Client} (hopen : c.closed = false) :
    Agree s (p.remotely net n c) (p.through r (List.replicate n s)) := by
  induction n generalizing p c with
  | zero => exact .same p
  | succ n ih =>
    cases p with
    | ended keys result =>
      rw [Progress.remotely_ended, Progress.through_ended]
      exact .same _
    | running task =>
      have htask : task.Fetches := hp
      obtain ⟨reply, hserve⟩ := htask.reading.serve_eq r s
      have hthrough : (Progress.running task).through r (List.replicate (n + 1) s) =
          ((Progress.running task).answered r s).through r (List.replicate n s) := rfl
      rw [hthrough, Progress.answered_of_reply hserve]
      show Agree s ((task.resume (c.serve net task.request).1).remotely net n
        (c.serve net task.request).2) _
      cases reply with
      | ok answer =>
        rw [honest.serve_answer htask.reading hopen (congrArg Prod.fst hserve)]
        exact ih (htask.resume _) (htask.reading.closed_serve.trans hopen)
      | error e =>
        obtain ⟨f, hrefused⟩ := honest.serve_refusal htask.reading hopen (congrArg Prod.fst hserve)
        obtain ⟨first, hfirst⟩ := htask.resume_error f
        obtain ⟨second, hsecond⟩ := htask.resume_error e
        rw [hrefused, hfirst, hsecond, Progress.remotely_ended, Progress.through_ended]
        exact .failed (htask.closed_of_error hserve) _ first second

/-! ## The end of an operation -/

/-- At a ledger that stays as it is, the operation comes to its end. -/
def Progress.Ends (r : Rules) (s : State) (p : Progress) : Prop :=
  ∃ n keys result, p.through r (List.replicate n s) = .ended keys result

theorem ends_of_ended {r : Rules} {s : State} {p : Progress} {keys : List Bytes}
    {result : Except Error Output} (h : p = .ended keys result) : p.Ends r s := ⟨0, keys, result, h⟩

theorem ends_of_answered {r : Rules} {s : State} {p : Progress} (h : (p.answered r s).Ends r s) :
    p.Ends r s := by
  obtain ⟨n, keys, result, hend⟩ := h
  exact ⟨n + 1, keys, result, hend⟩

/-- From any point on, a listing at a ledger that stays as it is comes to its end. -/
theorem page_ends {r : Rules} {s : State} (hopen : s.closed = false) {o : Opened}
    (hsize : o.config.pageSize ≠ 0) {start : Address} {seen rest : List Address}
    (hunder : s.best.under start = seen ++ rest) (delivered : List Bytes) :
    (Progress.running (.page o start seen.getLast? delivered)).Ends r s := by
  -- The induction is on the number of addresses that are left.
  induction hn : rest.length using Nat.strongRecOn generalizing seen rest delivered with
  | ind n ih =>
    have hcount : 0 < o.config.pageSize.toNat :=
      Nat.pos_of_ne_zero fun hzero => hsize (UInt32.toNat_inj.1 hzero)
    have hserve := serve_keys (r := r) hopen start o.config.pageSize seen.getLast?
    rw [Ledger.Entries.page_getLast? _ hunder] at hserve
    refine ends_of_answered ?_
    rw [Progress.answered_of_reply hserve]
    simp only [Task.resume]
    split
    · exact ends_of_ended rfl
    · split
      · exact ends_of_ended rfl
      · rename_i hfull
        rw [List.length_take, Nat.not_lt] at hfull
        have hlength : (rest.take o.config.pageSize.toNat).length = o.config.pageSize.toNat :=
          List.length_take_of_le (by omega)
        have hnonempty : rest.take o.config.pageSize.toNat ≠ [] :=
          List.ne_nil_of_length_pos (by omega)
        rw [← List.getLast?_append_of_ne_nil seen hnonempty]
        refine ih (rest.drop o.config.pageSize.toNat).length ?_ ?_ _ rfl
        · rw [List.length_drop]
          omega
        · rw [List.append_assoc, List.take_append_drop, hunder]

theorem Task.Fetches.request_ne_close {task : Task} (h : task.Fetches) : task.request ≠ .close := by
  intro heq
  have hreading := h.reading
  rw [heq] at hreading
  cases hreading

/-- A command that reads comes to its end, if its pages may hold anything. -/
theorem Command.Fetches.ends {command : Command} (h : command.Fetches) (r : Rules) (s : State)
    {store : Store} (hsize : store.config.pageSize ≠ 0) : (command.start store).Ends r s := by
  rcases start_cases store command with ⟨-, hstart⟩ | ⟨_, hstart⟩ | ⟨_, task, -, hbegins, hstart⟩
  · exact ends_of_ended hstart
  · exact ends_of_ended hstart
  · have htask := hbegins.fetches h
    rw [hstart]
    cases hclosed : s.closed with
    | true =>
      obtain ⟨_, hfailed⟩ := htask.resume_error .closed
      refine ends_of_answered ?_
      rw [Progress.answered_of_reply (State.serve_of_closed hclosed htask.request_ne_close)]
      exact ends_of_ended hfailed
    | false =>
      cases hbegins with
      | @get _ _ address _ =>
        refine ends_of_answered ?_
        rw [Progress.answered_of_reply (serve_storage hclosed address)]
        simp only [Task.resume]
        cases dataOfReply .get (.ok (s.best.get? address)) <;> exact ends_of_ended rfl
      | @listKeys _ start _ =>
        have hunder : s.best.under start = [] ++ s.best.under start := rfl
        exact page_ends hclosed hsize hunder []
      | set | delete | update => exact h.elim

/-! ## The client and the ledger -/

/-- An operation over a client goes as it goes over the ledger. -/
structure Mirrored (r : Rules) (s : State) (net : Network) (c : Client) (p : Progress) : Prop where
  /-- It is at the same point after as many replies, at an open ledger. -/
  same : s.closed = false →
    ∀ n, p.remotely net n c = p.through r (List.replicate n s)
  /-- At a closed one it fails where it fails over the ledger, if with another error. -/
  agrees : ∀ n, Agree s (p.remotely net n c) (p.through r (List.replicate n s))
  ends : p.Ends r s

theorem Agree.eq_of_open {s : State} {p q : Progress} (h : Agree s p q) (hopen : s.closed = false) :
    p = q := by
  cases h with
  | same => rfl
  | failed hclosed =>
    rw [hopen] at hclosed
    cases hclosed

section Mirror

variable {r : Rules} {s : State} {net : Network} (honest : Honest r s net) {c : Client}
  (hopen : c.closed = false)

include honest hopen

theorem mirrored (command : Command) (hcommand : command.Fetches) {store : Store}
    (hsize : store.config.pageSize ≠ 0) : Mirrored r s net c (command.start store) where
  same hledger n := (remotely_agrees honest n (hcommand.start store) hopen).eq_of_open hledger
  agrees n := remotely_agrees honest n (hcommand.start store) hopen
  ends := hcommand.ends r s hsize

end Mirror

/-- **A remote ledger is the ledger.** Over an honest other side, a client gets the ledger's answers and
takes nothing else for an answer: at an open ledger the genesis, the versions and, at every block that
the ledger knows, what is stored at an address, absent or empty, and every page of addresses. So
fetching a record and listing keys go through the same stages and deliver the same over both. -/
theorem client_mirrors_ledger (r : Rules) (s : State) (net : Network) (honest : Honest r s net)
    (c : Client) (hopen : c.closed = false) :
    (∀ request, Reading request → ∀ answer,
      (c.serve net request).1 = .ok answer ↔ (s.serve r request).1 = .reply (.ok answer)) ∧
    (s.closed = false →
      (c.serve net .genesisHash).1 = .ok r.genesis ∧
      (c.serve net .runtimeVersion).1 = .ok r.version ∧
      ∀ block entries, s.entriesAt block = .ok entries →
        (∀ address, s.storage address block = .ok (entries.get? address) ∧
          (c.serve net (.storage address block)).1 = s.storage address block) ∧
        ∀ start count after,
          s.keys start count after block = .ok (entries.page start count.toNat after) ∧
          (c.serve net (.keys start count after block)).1 = s.keys start count after block) ∧
    ∀ signer config session, config.pageSize ≠ 0 → ∀ ns key,
      Mirrored r s net c ((withSession signer config session).get ns key) ∧
      Mirrored r s net c ((withSession signer config session).listKeys ns) := by
  refine ⟨fun request hreads answer => honest.serve_eq_ok_iff hreads hopen answer, ?_, ?_⟩
  · intro hledger
    have hfixed : ∀ {α : Type} (value : α), s.whileOpen value = .ok value := by
      intro α value
      unfold State.whileOpen
      rw [if_neg (Bool.eq_false_iff.1 hledger)]
    refine ⟨honest.serve_answer .genesisHash hopen (congrArg _ (hfixed r.genesis)),
      honest.serve_answer .runtimeVersion hopen (congrArg _ (hfixed r.version)), ?_⟩
    intro block entries hentries
    refine ⟨fun address => ?_, fun start count after => ?_⟩
    · have hvalue : s.storage address block = .ok (entries.get? address) := by
        simp only [State.storage, hledger, hentries, Bool.false_eq_true, if_false]
      refine ⟨hvalue, ?_⟩
      rw [hvalue]
      exact honest.serve_answer (.storage address block) hopen (congrArg _ hvalue)
    · have hpage : s.keys start count after block = .ok (entries.page start count.toNat after) := by
        simp only [State.keys, hledger, hentries, Bool.false_eq_true, if_false]
      refine ⟨hpage, ?_⟩
      rw [hpage]
      exact honest.serve_answer (.keys start count after block) hopen (congrArg _ hpage)
  · intro signer config session hsize ns key
    exact ⟨mirrored honest hopen (.get ns key) trivial hsize,
      mirrored honest hopen (.listKeys ns) trivial hsize⟩

open Ed25519 (neutralKey) in
/-- An account has been funded, and nothing is stored at the empty address. -/
theorem client_mirrors_ledger_funded :
    let config : Ledger.Config := {}
    let r := Rules.ofConfig config
    let account : AccountId := ⟨Fixed.zero 32⟩
    let s := (State.initial r).run r [.fund account 5]
    let net := Remote.serving r s
    let c : Client := { config := {} }
    let store := withSession (.neutral neutralKey) {} config.session
    Honest r s net ∧ c.closed = false ∧
      (∃ value, (c.serve net (.storage (r.keys.accountAddress account) none)).1 = .ok (some value)) ∧
      (c.serve net (.storage [] none)).1 = .ok none ∧
      Mirrored r s net c (store.get [7] [1]) ∧ Mirrored r s net c (store.listKeys [7]) := by
  intro config r account s net c store
  have honest : Honest r s net := Remote.honest_serving r s
  obtain ⟨-, hreads, hstores⟩ := client_mirrors_ledger r s net honest c rfl
  obtain ⟨-, -, hbest⟩ := hreads rfl
  have hstored : ∀ address, (c.serve net (.storage address none)).1 = .ok (s.best.get? address) := by
    intro address
    obtain ⟨hledger, hclient⟩ := (hbest none s.best rfl).1 address
    exact hclient.trans hledger
  have hfunded : ∃ value, s.best.get? (r.keys.accountAddress account) = some value :=
    ⟨_, Ledger.Entries.get?_insert_self _ _ _⟩
  have hempty : ([] : Address) ≠ r.keys.accountAddress account := by decide +kernel
  have habsent : s.best.get? [] = none := Ledger.Entries.get?_insert_of_ne hempty
  refine ⟨honest, rfl, ?_, ?_, hstores _ _ _ (by decide) [7] [1]⟩
  · obtain ⟨value, hvalue⟩ := hfunded
    exact ⟨value, by rw [hstored, hvalue]⟩
  · rw [hstored, habsent]

end MetaLedger.Store
