/-!
# Chains of stages

A chain is a list of named stages that run in order. Each stage gets the request and what the
stages before it have found out, and either goes on with more or halts with a result. If all go
on, the chain finishes with what is known at the end.
-/

namespace LogPipeline

inductive Verdict (γ ω : Type) where
  | goOn (context : γ)
  | halt (result : ω)

/-- A stage over requests `ρ`, contexts `γ` and results `ω`, with the effects of `m`. -/
structure Stage (m : Type → Type) (ρ γ ω : Type) where
  name : String
  run : ρ → γ → m (Verdict γ ω)

structure Chain (m : Type → Type) (ρ γ ω : Type) where
  name : String
  stages : List (Stage m ρ γ ω)
  finish : γ → ω

namespace Chain

variable {m : Type → Type} [Monad m] {ρ γ ω : Type}

def stageNames (c : Chain m ρ γ ω) : List String :=
  c.stages.map (·.name)

def runStages (finish : γ → ω) (request : ρ) : List (Stage m ρ γ ω) → γ → m ω
  | [], context => return finish context
  | stage :: rest, context => do
    match ← stage.run request context with
    | .goOn context => runStages finish request rest context
    | .halt result => return result

def run (c : Chain m ρ γ ω) (request : ρ) (context : γ) : m ω :=
  runStages c.finish request c.stages context

end Chain

end LogPipeline
