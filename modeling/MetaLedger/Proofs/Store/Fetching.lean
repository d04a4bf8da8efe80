import Mathlib.Logic.Function.Basic
import MetaLedger.Proofs.Store.Submitting
import MetaLedger.Store.Connecting

/-!
# Fetching the facts of a chain

A connection needs three facts of a chain, and none of them to ask for another. So it makes no
difference in which order the answers come: each is kept until all are there, and the first failure ends
the connection (`Fetches`). To ask for one after the other, as a store does here, is one of these orders
(`Connects.fetches`). What a connection comes to depends on the answers alone (`Fetches.start_cases`).
-/

namespace MetaLedger.Store.Connecting

/-! ## Facts -/

/-- What is fetched of a chain. -/
inductive Fact where
  | schema
  | genesis
  | version
deriving DecidableEq

namespace Fact

abbrev request : Fact → Node.Request
  | schema => .runtimeSchema
  | genesis => .genesisHash
  | version => .runtimeVersion

/-- The step of a connection at which the fact is fetched. -/
def step : Fact → Step
  | schema => .fetchSchema
  | genesis => .fetchGenesis
  | version => .fetchRuntimeVersion

end Fact

/-- The facts that are known so far. -/
abbrev Facts := (f : Fact) → Option f.request.Answer

namespace Facts

def none : Facts := fun _ => .none

/-- Keeps an answer. -/
def add (facts : Facts) (f : Fact) (answer : f.request.Answer) : Facts :=
  Function.update facts f (some answer)

end Facts

/-- The session that three facts make, or why there is none. -/
def conclude (layout : Layout) (schema : RuntimeSchema) (genesis : BlockHash)
    (version : RuntimeVersion) : Except Error Session :=
  (Session.ofParts schema ⟨genesis, version⟩ layout).mapError (·.during .connect .resolveSchema)

/-! ## Answers in any order -/

/-- With what is known so far, the exchanges lead to the result. The answers that are missing may come
in any order, and the first failure is the last that counts. -/
inductive Fetches (layout : Layout) : Facts → List Exchange → Except Error Session → Prop
  | concluded {facts : Facts} {schema : RuntimeSchema} {genesis : BlockHash}
      {version : RuntimeVersion} (hschema : facts .schema = some schema)
      (hgenesis : facts .genesis = some genesis) (hversion : facts .version = some version) :
      Fetches layout facts [] (conclude layout schema genesis version)
  | failed {facts : Facts} (f : Fact) (hmissing : facts f = none) (e : Node.Error) :
      Fetches layout facts [⟨f.request, .error e⟩] (failAt .connect f.step (.chainQuery e))
  | answered {facts : Facts} {talk : List Exchange} {result : Except Error Session} (f : Fact)
      (hmissing : facts f = none) (answer : f.request.Answer)
      (hrest : Fetches layout (facts.add f answer) talk result) :
      Fetches layout facts (⟨f.request, .ok answer⟩ :: talk) result

/-- Through the exchanges, a connection that asks for one fact after the other gets from one place to
another. -/
inductive Connects (layout : Layout) : Progress → List Exchange → Progress → Prop
  | rest (p : Progress) : Connects layout p [] p
  | exchange {c : Connecting} {talk : List Exchange} {p : Progress} (reply : c.request.Reply)
      (hrest : Connects layout (c.resume layout reply) talk p) :
      Connects layout (.running c) (⟨c.request, reply⟩ :: talk) p

section Order

variable {layout : Layout} {talk : List Exchange} {result : Except Error Session}

theorem Connects.of_ended {outcome : Except Error Session} {p : Progress}
    (h : Connects layout (.ended outcome) talk p) : talk = [] ∧ p = .ended outcome := by
  cases h
  exact ⟨rfl, rfl⟩

/-- What a connection knows that asks for one fact after the other. -/
def known : Connecting → Facts
  | schema => .none
  | genesis found => Facts.none.add .schema found
  | version found hash => (Facts.none.add .schema found).add .genesis hash

/-- One after the other is an order, too. -/
theorem Connects.fetches {c : Connecting} (h : Connects layout (.running c) talk (.ended result)) :
    Fetches layout c.known talk result := by
  generalize hp : Progress.running c = p at h
  generalize hq : Progress.ended result = q at h
  induction h generalizing c with
  | rest p =>
    subst hp
    cases hq
  | @exchange asked talk p reply hrest ih =>
    cases hp
    cases asked with
    | schema =>
      cases reply with
      | ok found => exact .answered .schema rfl found (ih rfl hq)
      | error e =>
        obtain ⟨rfl, rfl⟩ := hrest.of_ended
        cases hq
        exact .failed .schema rfl e
    | genesis found =>
      cases reply with
      | ok hash => exact .answered .genesis rfl hash (ih rfl hq)
      | error e =>
        obtain ⟨rfl, rfl⟩ := hrest.of_ended
        cases hq
        exact .failed .genesis rfl e
    | version found hash =>
      cases reply with
      | ok v =>
        obtain ⟨rfl, rfl⟩ := hrest.of_ended
        cases hq
        exact .answered .version rfl v (.concluded rfl rfl rfl)
      | error e =>
        obtain ⟨rfl, rfl⟩ := hrest.of_ended
        cases hq
        exact .failed .version rfl e

/-- The exchanges of a connection: answers, and then perhaps a failure, which is the result; else the
result is what the answers make. -/
theorem Fetches.cases {facts : Facts} {said : List Exchange} (h : Fetches layout facts talk result)
    (hsaid : ∀ f answer, facts f = some answer → ⟨f.request, .ok answer⟩ ∈ said) :
    (∃ before f e, talk = before ++ [⟨Fact.request f, .error e⟩] ∧
      result = failAt .connect (Fact.step f) (.chainQuery e)) ∨
    ∃ schema genesis version, result = conclude layout schema genesis version ∧
      ⟨.runtimeSchema, .ok schema⟩ ∈ said ++ talk ∧ ⟨.genesisHash, .ok genesis⟩ ∈ said ++ talk ∧
      ⟨.runtimeVersion, .ok version⟩ ∈ said ++ talk := by
  induction h generalizing said with
  | @concluded facts schema genesis version hschema hgenesis hversion =>
    refine .inr ⟨schema, genesis, version, rfl, ?_⟩
    rw [List.append_nil]
    exact ⟨hsaid .schema schema hschema, hsaid .genesis genesis hgenesis,
      hsaid .version version hversion⟩
  | failed f _ e => exact .inl ⟨[], f, e, rfl, rfl⟩
  | @answered facts talk result f _ answer _ ih =>
    have hmore : ∀ g other, facts.add f answer g = some other →
        (⟨g.request, .ok other⟩ : Exchange) ∈ said ++ [⟨f.request, .ok answer⟩] := by
      intro g other hg
      by_cases same : g = f
      · subst same
        unfold Facts.add at hg
        rw [Function.update_self] at hg
        cases hg
        exact List.mem_append_right _ (List.mem_singleton_self _)
      · unfold Facts.add at hg
        rw [Function.update_of_ne same] at hg
        exact List.mem_append_left _ (hsaid g other hg)
    rcases ih hmore with ⟨before, g, e, rfl, hresult⟩ | ⟨schema, genesis, version, hresult, hall⟩
    · exact .inl ⟨_ :: before, g, e, rfl, hresult⟩
    · rw [List.append_assoc] at hall
      exact .inr ⟨schema, genesis, version, hresult, hall⟩

/-- At the start nothing is known, and all that a session is made of was answered. -/
theorem Fetches.start_cases (h : Fetches layout .none talk result) :
    (∃ before f e, talk = before ++ [⟨Fact.request f, .error e⟩] ∧
      result = failAt .connect (Fact.step f) (.chainQuery e)) ∨
    ∃ schema genesis version, result = conclude layout schema genesis version ∧
      ⟨.runtimeSchema, .ok schema⟩ ∈ talk ∧ ⟨.genesisHash, .ok genesis⟩ ∈ talk ∧
      ⟨.runtimeVersion, .ok version⟩ ∈ talk := by
  have hsaid : ∀ f answer, Facts.none f = some answer →
    (⟨f.request, .ok answer⟩ : Exchange) ∈ ([] : List Exchange) := nofun
  exact h.cases hsaid

end Order

end MetaLedger.Store.Connecting
