import LogPipeline.Proofs.Admission.LastStage
import LogPipeline.Proofs.Rate.Limiter
import LogPipeline.Proofs.Service.Lifetime

namespace LogPipeline

open Backend Pipeline Quantity

namespace Admission

variable {α : Type}

/-- Nothing differs but the bucket of the key, the decision about the question, and the number of
rejections that is exported. Planned faults and identities that were not used may be used up. -/
structure NoTrace (s : Submission) (reason : Rejection) (p q : Pipeline α) : Prop where
  only : ∃ limiter cache faults ids, q = { p with
    gateway := { p.gateway with limiter, cache }
    backend := { p.backend with
      telemetry := rejectionCounted reason p.backend.telemetry, faults, ids } }
  counters : q.backend.telemetry.perKey = p.backend.telemetry.perKey
  buckets : ∀ key ≠ s.key,
    q.gateway.limiter.buckets.get? key = p.gateway.limiter.buckets.get? key
  ttl : q.gateway.cache.ttl = p.gateway.cache.ttl
  decisions : ∀ question ≠ s.question,
    q.gateway.cache.decisions.get? question = p.gateway.cache.decisions.get? question

variable [Quantity α]

def TakesAtMostOne (before after : Option (TokenBucket α)) : Prop :=
  after = before ∨ ∃ bucket, before = some bucket ∧ atMost (ofNat 1) bucket.tokens = true ∧
    after = some { bucket with tokens := bucket.tokens - ofNat 1 }

/-- The submission has passed the checks that come before the rate, and at most one token was taken
from its bucket once that had the limits of the app. -/
structure ChargedOnce (s : Submission) (answer : Reception) (p q : Pipeline α) : Prop where
  passed : ∀ c ∈ accessible p s, c.1 = true
  late : ∀ reason ∈ earlyReasons, answer ≠ .rejected reason
  bucket : TakesAtMostOne ((syncedLimiter p s).buckets.get? s.key)
    (q.gateway.limiter.buckets.get? s.key)
  others : ∀ key ≠ s.key,
    q.gateway.limiter.buckets.get? key = p.gateway.limiter.buckets.get? key

/-! ## Buckets -/

theorem get?_tryAcquire (l : Limiter α) (key : Key) :
    TakesAtMostOne (l.buckets.get? key) ((l.tryAcquire key 1).2.buckets.get? key) := by
  unfold Limiter.tryAcquire
  cases known : l.buckets.get? key with
  | none => exact .inl known
  | some bucket =>
      simp only [Table.get?_insert, if_true, TokenBucket.tryTake]
      split
      · rename_i enough
        exact .inr ⟨bucket, rfl, enough, rfl⟩
      · exact .inl rfl

theorem get?_chargedLimiter_of_ne (s : Submission) (p : Pipeline α) {key : Key}
    (differs : key ≠ s.key) :
    (chargedLimiter p s).buckets.get? key = p.gateway.limiter.buckets.get? key := by
  rw [chargedLimiter, Limiter.get?_tryAcquire_of_ne _ differs, syncedLimiter]
  cases p.backend.apps.get? s.key.app with
  | none => rfl
  | some app => exact Limiter.get?_sync_of_ne _ differs _ _ _

/-! ## What asking leaves -/

variable {s : Submission} {p q : Pipeline α} {outcome : Option Rejection}

theorem Asked.charges (asked : Asked s p outcome q) :
    q.gateway.limiter = p.gateway.limiter ∨
      (firstFailing (accessible p s) = none ∧ IsLate outcome ∧
        q.gateway.limiter = chargedLimiter p s) := by
  obtain ⟨_, _, _, _, charged, rfl⟩ := asked
  exact charged

theorem perKey_rejectionCounted (reason : Rejection) (t : Telemetry) :
    (rejectionCounted reason t).perKey = t.perKey := by
  unfold rejectionCounted
  cases reason.label? <;> rfl

theorem Asked.noTrace (asked : Asked s p outcome q) (reason : Rejection) (faults : FaultPlan)
    (ids : IdSource) :
    NoTrace s reason p
      (turnedAway reason { q with backend := { q.backend with faults, ids } }).2 := by
  obtain ⟨_, cache, limiter, remembers, charged, rfl⟩ := asked
  rw [turnedAway_apply]
  refine ⟨⟨limiter, cache, faults, ids, rfl⟩, perKey_rejectionCounted reason _, ?_, remembers.ttl,
    fun question differs => remembers.get?_decisions differs⟩
  intro key differs
  rcases charged with same | ⟨_, _, same⟩
  · exact congrArg (fun l => l.buckets.get? key) same
  · exact (congrArg (fun l => l.buckets.get? key) same).trans
      (get?_chargedLimiter_of_ne s p differs)

theorem Asked.chargedOnce {answer : Reception} {after : Pipeline α} (asked : Asked s p outcome q)
    (late : ∀ reason, answer = .rejected reason → IsLate outcome → reason ∉ earlyReasons)
    (same : after.gateway = q.gateway) :
    after.gateway.limiter = p.gateway.limiter ∨ ChargedOnce s answer p after := by
  rw [same]
  refine asked.charges.imp_right ?_
  rintro ⟨passed, isLate, charged⟩
  refine ⟨(firstFailing_eq_none_iff _).mp passed,
    fun reason early rejected => late reason rejected isLate early, ?_, ?_⟩
  · rw [same, charged]
    exact get?_tryAcquire _ _
  · intro key differs
    rw [same, charged]
    exact get?_chargedLimiter_of_ne s p differs

/-! ## All submissions -/

theorem submit_charges (s : Submission) (p : Pipeline α) :
    (submit s p).2.gateway.limiter = p.gateway.limiter ∨
      ChargedOnce s (submit s p).1 p (submit s p).2 := by
  have ended := ended_submit s p
  generalize submit s p = run at ended
  cases ended with
  | rejected asked explained =>
      refine asked.chargedOnce ?_ ?_
      · rintro _ ⟨⟩ isLate
        exact isLate _ rfl
      · rw [turnedAway_apply]
  | buffered asked fine kind joined =>
      obtain ⟨⟨_, _, _, rfl⟩, _, _⟩ := joined
      exact asked.chargedOnce nofun rfl
  | accepted asked fine kind writable =>
      exact asked.chargedOnce nofun (gateway_accepted _ _ _ _)
  | unsaved asked fine kind cause =>
      refine asked.chargedOnce ?_ ?_
      · rintro _ ⟨⟩ _
        decide
      · rw [turnedAway_apply]

theorem submit_rejected (s : Submission) (p : Pipeline α)
    (rejected : (submit s p).1.isSuccess = false) :
    ∃ reason, (submit s p).1 = .rejected reason ∧ NoTrace s reason p (submit s p).2 := by
  have ended := ended_submit s p
  generalize submit s p = run at ended rejected
  cases ended with
  | @rejected q reason asked explained =>
      exact ⟨reason, rfl, asked.noTrace reason q.backend.faults q.backend.ids⟩
  | buffered => cases rejected
  | accepted => cases rejected
  | unsaved asked fine kind cause => exact ⟨_, rfl, asked.noTrace _ _ _⟩

end Admission

namespace Service

open Admission

variable {α : Type} [Quantity α]

/-- What is rejected leaves no trace, and nothing at all if the service does not run. What is
submitted takes at most one token, and none before it has passed the checks of its parameters, its
endpoint, its rights and its address. -/
theorem receive_rejected (service : Service α) (s : Submission) :
    let answer := (receive s service).1
    let after := (receive s service).2
    (answer.isSuccess = false →
        ∃ reason, answer = .rejected reason ∧
          after = { service with pipeline := after.pipeline } ∧
          NoTrace s reason service.pipeline after.pipeline) ∧
      (service.state ≠ .running → answer = .rejected .notRunning ∧ after = service) ∧
      (after.pipeline.gateway.limiter = service.pipeline.gateway.limiter ∨
        ChargedOnce s answer service.pipeline after.pipeline) := by
  by_cases running : service.state = .running
  · rw [receive_of_running running]
    refine ⟨fun rejected => ?_, fun idle => absurd running idle, submit_charges s service.pipeline⟩
    obtain ⟨reason, answer, untouched⟩ := submit_rejected s service.pipeline rejected
    exact ⟨reason, answer, rfl, untouched⟩
  · rw [receive_of_idle running]
    refine ⟨fun _ => ⟨.notRunning, rfl, rfl, ?_⟩, fun _ => ⟨rfl, rfl⟩, .inl rfl⟩
    exact ⟨⟨_, _, _, _, rfl⟩, rfl, fun _ _ => rfl, rfl, fun _ _ => rfl⟩

/-- A batch has passed all checks and cannot be saved: it has cost a token and nothing else. -/
theorem receive_rejected_unsaved :
    let key : Key := ⟨⟨"app"⟩, ⟨"endpoint"⟩⟩
    let s : Submission := ⟨key, [.new "text" .custom ⟨0, 0⟩], .batch⟩
    let known := { opened ⟨"", 1⟩ .defaults (.put .empty (.new key.app "key" "secret"))
      (.put .empty (.new key.endpoint .custom)) with batches := ⟨.empty, true⟩ }
    let service : Service Rat :=
      ⟨.defaults, .running, PipelineConfig.defaults.pipeline 1 known 0⟩
    let after := (receive s service).2
    (receive s service).1 = .rejected (.internal "save") ∧
      (after.pipeline.gateway.limiter.buckets.get? key).map (·.tokens) = some 199 ∧
      (∃ reason, (receive s service).1 = .rejected reason ∧
        after = { service with pipeline := after.pipeline } ∧
        NoTrace s reason service.pipeline after.pipeline) := by
  intro key s known service after
  have answer : (receive s service).1 = .rejected (.internal "save") := by decide +kernel
  exact ⟨answer, by decide +kernel, (receive_rejected service s).1 (by rw [answer]; rfl)⟩

end Service

end LogPipeline
