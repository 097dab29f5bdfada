/-
Workloads.Sla — the service level of a job, after the fact
(`packages/workloads/sla.py`).

Differences of times are exact here; `total_seconds()` is a float.
-/
import ComputeWeaver.Workloads.Models

namespace ComputeWeaver.Workloads

open Lib

structure SlaObservation where
  observedAt : DateTime
  completedAt : Option DateTime := none
  latencyMs : Option Int := none
  availability : Option ℚ := none
  deriving DecidableEq, Repr

structure SlaEvaluation where
  met : Bool
  violations : List String
  atRisk : Bool
  deriving DecidableEq, Repr

/-- `completed_at is not None and completed_at > deadline`. -/
def completedLate (deadline : DateTime) : Option DateTime → Except PyError Bool
  | none => pure false
  | some completedAt => deadline.lt completedAt

/-- The test of the latency, where both numbers are given. -/
def latencyExceeded (maxLatencyMs latencyMs : Option Int) : Bool :=
  match maxLatencyMs, latencyMs with
  | some limit, some latency => decide (limit < latency)
  | _, _ => false

def evaluateSla (sla : Sla) (observation : SlaObservation) (riskWindowSeconds : Int := 900) :
    Except PyError SlaEvaluation := do
  if observation.observedAt.isNaive || sla.deadline.isNaive then
    throw (.valueError "SLA timestamps must be timezone-aware")
  if riskWindowSeconds < 0 then
    throw (.valueError "risk window cannot be negative")
  let late ← completedLate sla.deadline observation.completedAt
  let violations := (if late then ["DEADLINE_MISSED"] else []) ++
    if latencyExceeded sla.maxLatencyMs observation.latencyMs then ["LATENCY_EXCEEDED"] else []
  let atRisk := observation.completedAt.isNone &&
    decide (sla.deadline.micros - observation.observedAt.micros ≤ riskWindowSeconds * 1000000)
  pure ⟨violations.isEmpty, violations, atRisk⟩

theorem deadlineMissed_iff {sla : Sla} {observation : SlaObservation} {riskWindowSeconds : Int}
    {evaluation : SlaEvaluation}
    (h : evaluateSla sla observation riskWindowSeconds = .ok evaluation) :
    "DEADLINE_MISSED" ∈ evaluation.violations ↔
      ∃ completedAt, observation.completedAt = some completedAt ∧
        sla.deadline.micros < completedAt.micros := by
  unfold evaluateSla at h
  simp only [except_throw] at h
  split at h
  · cases h
  split at h
  · cases h
  obtain ⟨late, hlate, h⟩ := bind_eq_ok.mp h
  cases h
  have hmissed : late = true ↔ ∃ completedAt, observation.completedAt = some completedAt ∧
      sla.deadline.micros < completedAt.micros := by
    cases hcompleted : observation.completedAt with
    | none =>
      rw [hcompleted] at hlate
      cases hlate
      simp
    | some completedAt =>
      rw [hcompleted] at hlate
      obtain ⟨_, rfl⟩ := DateTime.lt_eq_ok.mp hlate
      simp
  rw [← hmissed]
  cases late <;> simp

end ComputeWeaver.Workloads
