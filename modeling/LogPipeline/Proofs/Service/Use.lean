import LogPipeline.Proofs.Service.Turns

namespace LogPipeline

open Backend

inductive Happening (α : Type) where
  | occurrence (occurrence : Occurrence)
  | waitIdle
  | flushAll
  | process (id : BatchId)
  /-- The gateway is asked something, and remembers what it answers. -/
  | asked (gateway : Gateway α)

def Happening.IsPlain {α : Type} : Happening α → Prop
  | .occurrence (.event e) => e.IsPlain
  | _ => True

def Happening.IsUse {α : Type} : Happening α → Prop
  | .occurrence (.event .start) => False
  | .occurrence (.event .stop) => False
  | .occurrence (.event (.receive _)) => False
  | _ => True

/-- What tasks and time keep, and what is kept when all buffers are emptied or somebody else changes
the backend. -/
structure Pipeline.KeptByUse {α ε : Type} [Quantity α] (timed : Prop)
    (written : Task × Pipeline α → List ε) (holds : List ε → Pipeline α → Prop) : Prop extends
    KeptByTurns timed written holds where
  plain : ∀ events p, holds events p → p.backend.Plain
  drainBuffers : ∀ events p, holds events p → holds events (drainBuffers p).2
  aside : ∀ events p backend gateway, backend.Plain → backend.ids = p.backend.ids →
    holds events p → holds events { p with backend, gateway }

namespace Service

open Pipeline

variable {α : Type} [Quantity α] {s : Service α}

def happen (s : Service α) : Happening α → Service α
  | .occurrence occurrence => s.occur occurrence
  | .waitIdle => (waitIdle s).2
  | .flushAll => (onPipeline flushAll s).2
  | .process id => (onPipeline (process id) s).2
  | .asked gateway => { s with pipeline := { s.pipeline with gateway } }

def afterAll (s : Service α) (happenings : List (Happening α)) : Service α :=
  happenings.foldl happen s

def happenTurns (s : Service α) : Happening α → List (Task × Pipeline α)
  | .occurrence (.event e) => s.turns e
  | .waitIdle => waitIdleTurns s.pipeline
  | .flushAll => flushAllTurns s.pipeline
  | .process id => processTurns id 0 s.pipeline.mostAttempts s.pipeline
  | .occurrence .cleanUp | .asked _ => []

theorem happen_use {happening : Happening α} (use : happening.IsUse) :
    (s.happen happening).config = s.config ∧ (s.happen happening).state = s.state := by
  cases happening with
  | occurrence occurrence =>
      cases occurrence with
      | event event =>
          cases event with
          | start | stop | receive => exact use.elim
          | change | advance | turn => exact ⟨rfl, rfl⟩
      | cleanUp => exact ⟨rfl, rfl⟩
  | waitIdle | flushAll | process | asked => exact ⟨rfl, rfl⟩

end Service

theorem Pipeline.KeptByUse.happen {α ε : Type} [Quantity α] {timed : Prop}
    {written : Task × Pipeline α → List ε} {holds : List ε → Pipeline α → Prop}
    (kept : KeptByUse timed written holds) {s : Service α} (events : List ε)
    (start : holds events s.pipeline) {happening : Happening α} (plain : happening.IsPlain)
    (use : happening.IsUse) :
    holds (events ++ (s.happenTurns happening).flatMap written) (s.happen happening).pipeline := by
  have still := kept.plain _ _ start
  have aside (backend : Backend) (gateway : Gateway α) (plain : backend.Plain)
      (ids : backend.ids = s.pipeline.backend.ids) :
      holds (events ++ []) { s.pipeline with backend, gateway } :=
    (List.append_nil events).symm ▸ kept.aside _ _ backend gateway plain ids start
  cases happening with
  | occurrence occurrence =>
      cases occurrence with
      | event event =>
          cases event with
          | start | stop | receive => exact use.elim
          | change c =>
              exact aside _ s.pipeline.gateway (plain_change plain still _) (ids_change c _ _)
          | advance millis => exact kept.advance start millis
          | turn place => exact kept.turn start place
      | cleanUp =>
          obtain ⟨plain, ids⟩ := plain_cleanUp still s.pipeline.retention s.pipeline.now
          exact aside _ s.pipeline.gateway plain ids
  | waitIdle => exact kept.waitIdle start
  | flushAll => exact kept.flushAll (kept.drainBuffers _ _ start)
  | process id =>
      refine kept.processFrom (fun events p id retry holds => ?_) start id 0 _
      have plain := kept.plain _ _ holds
      exact kept.aside _ _ _ p.gateway (plain_tryOnce plain _ _ _ _)
        (concerns_tryOnce plain _ _ _ _).1 holds
  | asked gateway => exact aside s.pipeline.backend gateway still rfl

end LogPipeline
