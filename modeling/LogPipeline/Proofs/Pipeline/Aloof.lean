import LogPipeline.Proofs.Collections
import LogPipeline.Proofs.Pipeline.Frames

namespace LogPipeline

structure DecisionCache.Forgets (before after : DecisionCache) : Prop where
  ttl : after.ttl = before.ttl
  decisions : ∀ q d, after.decisions.get? q = some d → before.decisions.get? q = some d

namespace DecisionCache.Forgets

variable {first second third : DecisionCache}

theorem refl (cache : DecisionCache) : Forgets cache cache :=
  ⟨rfl, fun _ _ found => found⟩

theorem trans (one : Forgets first second) (other : Forgets second third) : Forgets first third :=
  ⟨other.ttl.trans one.ttl, fun q d found => one.decisions q d (other.decisions q d found)⟩

theorem clear (cache : DecisionCache) : Forgets cache cache.clear :=
  ⟨rfl, fun _ _ found => nomatch found⟩

theorem evict (cache : DecisionCache) (now : Nanos) : Forgets cache (cache.evict now).2 where
  ttl := rfl
  decisions q d found := by
    rw [DecisionCache.evict, Table.get?_filter] at found
    exact (Option.filter_eq_some_iff.mp found).1

end DecisionCache.Forgets

namespace Pipeline

variable {α : Type} {p q r : Pipeline α}

structure Aloof (p q : Pipeline α) : Prop where
  gateway : q.gateway = p.gateway
  clock : q.clock = p.clock

theorem Aloof.refl (p : Pipeline α) : Aloof p p :=
  ⟨rfl, rfl⟩

theorem Aloof.trans (one : Aloof p q) (other : Aloof q r) : Aloof p r :=
  ⟨other.gateway.trans one.gateway, other.clock.trans one.clock⟩

theorem frame_aloof : Frame (Aloof (α := α)) where
  refl := Aloof.refl
  trans := Aloof.trans
  backend _ _ := ⟨rfl, rfl⟩
  tasks _ _ _ _ _ := ⟨rfl, rfl⟩
  timer _ _ _ _ _ := ⟨rfl, rfl⟩

theorem aloof_setTimer (wait : Nat) (task : Task) (p : Pipeline α) :
    Aloof p (setTimer wait task p).2 := by
  rw [setTimer_apply]
  split <;> exact ⟨rfl, rfl⟩

/-! ## Tasks and time -/

structure Unasked (p q : Pipeline α) : Prop where
  cache : p.gateway.cache.Forgets q.gateway.cache
  clock : q.clock = p.clock

theorem Unasked.trans (one : Unasked p q) (other : Unasked q r) : Unasked p r :=
  ⟨one.cache.trans other.cache, other.clock.trans one.clock⟩

theorem Aloof.unasked (aloof : Aloof p q) : Unasked p q :=
  ⟨aloof.gateway ▸ .refl _, aloof.clock⟩

variable [Quantity α]

theorem unasked_runJob (kind : JobKind) (p : Pipeline α) : Unasked p (runJob kind p).2 := by
  cases kind with
  | flushBuffers => exact (frame_aloof.drainBuffers (fun _ => ⟨rfl, rfl⟩) p).unasked
  | refillLimiter => exact ⟨.refl _, rfl⟩
  | evictDecisions => exact ⟨.evict _ _, rfl⟩
  | cleanUp => exact ⟨.refl _, rfl⟩

theorem unasked_runTask (task : Task) (p : Pipeline α) : Unasked p (runTask task p).2 := by
  cases task with
  | flush key logs => exact (frame_aloof.makeBatch key logs p).unasked
  | serve => exact (frame_aloof.serve p).unasked
  | resume id retry => exact (frame_aloof.deliver id retry _ p).unasked
  | run job => exact (aloof_setTimer _ _ p).unasked.trans (unasked_runJob job.kind _)
  | change c => exact ⟨.refl _, rfl⟩

theorem unasked_turn (place : Nat) (p : Pipeline α) : Unasked p (turn place p).2 := by
  cases found : p.ready[place]? with
  | none =>
      rw [turn_none found]
      exact (Aloof.refl p).unasked
  | some task =>
      have taken : Unasked p { p with ready := p.ready.eraseIdx place } := ⟨.refl _, rfl⟩
      rw [turn_some found]
      exact taken.trans (unasked_runTask task _)

theorem keptByTime_forgets (cache : DecisionCache) :
    KeptByTime fun q : Pipeline α => cache.Forgets q.gateway.cache where
  runNext q forgets := by
    cases next : q.ready with
    | nil =>
        rw [runNext_nil next]
        exact forgets
    | cons task ready =>
        rw [runNext_cons next]
        exact forgets.trans (unasked_runTask task { q with ready }).cache
  moveTo _ _ forgets := forgets

theorem clock_advance (millis : Nat) (p : Pipeline α) :
    (advance millis p).2.clock = p.clock + millis := by
  rw [advance_apply]
  split <;> rename_i zero
  · rw [zero]
    rfl
  · exact clock_passUntil _ _

end Pipeline

end LogPipeline
