import Templating.Proofs.Engine.Stock

/-!
Ranks of template names.

Templates cannot name one another in a circle if names have ranks, and whatever may be found under a
name sets layouts of lower ranks and includes templates of lower ranks only.  The cache may supply the
body for a name as well as the resolver, and a body may itself compile a text under a name; so the
sessions and the inputs that a body may compile are part of what suits the ranks.
-/

namespace Templating

/-- Ranks for names, and the inputs that bodies may compile. -/
structure Ranks where
  rank : String → Option Nat
  admits : CompileInput → Prop

/-- All layouts that a callback may set and all inputs that it may compile are such as asked for. -/
def Callback.KeepsTo (ranks : Ranks) (names : String → Prop) : Callback → Prop
  | .setLayout name => names name
  | .compile input => ranks.admits input
  | _ => True

/-- All layouts and includes of a body are of these names, whatever it is answered. -/
def Body.KeepsTo (ranks : Ranks) (names : String → Prop) : Body → Prop
  | .done _ => True
  | .call callback next => callback.KeepsTo ranks names ∧ ∀ reply, (next reply).KeepsTo ranks names
  | .captureSection _ inner next =>
      inner.KeepsTo ranks names ∧ ∀ reply, (next reply).KeepsTo ranks names
  | .includeTemplate name _ next => names name ∧ ∀ reply, (next reply).KeepsTo ranks names

structure Instance.KeepsTo (ranks : Ranks) (names : String → Prop) (template : Instance) : Prop where
  body : template.body.KeepsTo ranks names
  layout : ∀ layout ∈ template.layout, names layout

namespace Ranks

def Below (ranks : Ranks) (limit : Nat) (name : String) : Prop :=
  ∃ lower, ranks.rank name = some lower ∧ lower < limit

def Ranked (ranks : Ranks) (name : String) : Prop :=
  ∃ limit, ranks.rank name = some limit

/-- A body that may be found under a key. -/
def Fits (ranks : Ranks) (key : String) (body : Body) : Prop :=
  ∀ limit, ranks.rank key = some limit → body.KeepsTo ranks (ranks.Below limit)

/-- An input that an engine may compile: what comes of it fits the key that it is cached under. -/
def Permits (ranks : Ranks) (engine : Engine) (input : CompileInput) : Prop :=
  ∀ artifact, engine.outcome input = .ok artifact → ranks.Fits input.key artifact.loadable

/-- All that the resolver supplies fits its name, and so does all that bodies may compile. -/
structure Order (ranks : Ranks) (engine : Engine) : Prop where
  resolved : ∀ name input, engine.input? name = some input → ranks.Permits engine input
  admitted : ∀ input, ranks.admits input → ranks.Permits engine input

/-- All that the cache of a session supplies fits the key that it is cached under. -/
def Suits (ranks : Ranks) (session : Session Body) : Prop :=
  ∃ ledger, session.cache.Represents ledger ∧
    ∀ key artifact, (key, .ready artifact) ∈ ledger.entries → ranks.Fits key artifact.content.loadable

variable {ranks : Ranks} {engine : Engine} {session after : Session Body}

/-- What may be listed under a key: what has failed, and artifacts whose bodies fit the key. -/
def Lists (ranks : Ranks) (key : String) (settled : Settled Body) : Prop :=
  ∀ artifact, settled = .ready artifact → ranks.Fits key artifact.content.loadable

theorem suits_iff_stocked : ranks.Suits session ↔ session.Stocked ranks.Lists := by
  constructor
  · rintro ⟨ledger, represents, fits⟩
    refine ⟨ledger, represents, fun key settled member artifact ready => ?_⟩
    subst ready
    exact fits key artifact member
  · rintro ⟨ledger, represents, fits⟩
    exact ⟨ledger, represents, fun key artifact member => fits key _ member artifact rfl⟩

theorem Permits.makesFitting {input : CompileInput} (permits : ranks.Permits engine input) :
    engine.MakesFitting ranks.Lists input := by
  rintro _ backs artifact rfl
  exact permits artifact.content backs

namespace Suits

theorem record (suits : ranks.Suits session) (event : Event) : ranks.Suits (session.record event) :=
  suits_iff_stocked.mpr ((suits_iff_stocked.mp suits).record event)

theorem compile (suits : ranks.Suits session) {input : CompileInput}
    (permits : ranks.Permits engine input) :
    ∃ result after, engine.compile input session = some (result, after) ∧ ranks.Suits after ∧
      ∀ template, result = .ok template →
        template.layout = none ∧ ranks.Fits input.key template.body := by
  obtain ⟨result, after, compiles, left, fits⟩ :=
    (suits_iff_stocked.mp suits).compileArtifact permits.makesFitting
  have left := suits_iff_stocked.mpr left
  cases result with
  | error error =>
      exact ⟨.error error, after, by simp only [Engine.compile, compiles], left,
        fun _ fails => nomatch fails⟩
  | ok artifact =>
      refine ⟨engine.newInstance artifact .none, after, by simp only [Engine.compile, compiles], left,
        fun template made => ?_⟩
      obtain ⟨same, none⟩ := Engine.eq_of_newInstance made
      rw [Instance.body, same]
      exact ⟨none, fits artifact rfl⟩

/-- A template that is found for a name of some rank keeps to the names of lower ranks. -/
theorem findTemplate (suits : ranks.Suits session) (order : ranks.Order engine) (name : String) :
    ∃ result after, engine.findTemplate name session = some (result, after) ∧ ranks.Suits after ∧
      ∀ template limit, result = .ok (some template) → ranks.rank name = some limit →
        template.KeepsTo ranks (ranks.Below limit) := by
  obtain ⟨result, after, finds, left, turnout⟩ :=
    (suits_iff_stocked.mp suits).findTemplate fun input resolves =>
      (order.resolved name input resolves).makesFitting
  refine ⟨result, after, finds, suits_iff_stocked.mpr left, ?_⟩
  rintro template limit rfl ranked
  cases turnout with
  | found fits plain => exact ⟨fits template.artifact rfl limit ranked, by simp [plain]⟩

end Suits

/-- A session suits the ranks if all that its engine was asked to compile may be compiled. -/
theorem suits_of_filled {inputs : List CompileInput} (filled : engine.Filled inputs session)
    (permits : ∀ input ∈ inputs, ranks.Permits engine input) : ranks.Suits session :=
  suits_iff_stocked.mpr (filled.stocked fun input member => (permits input member).makesFitting)

end Ranks
end Templating
