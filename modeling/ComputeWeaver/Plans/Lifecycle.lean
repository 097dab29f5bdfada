/-
Plans.Lifecycle — the states of a governed plan
(`packages/plans/lifecycle.py`).

`transition` holds the lock from its first read to its last write, so calls
from several threads take effect one after another, in some order.
-/
import ComputeWeaver.Risk.Classifier

namespace ComputeWeaver.Plans

open Lib Risk

inductive PlanState where
  | draft | validated | pendingApproval | approved | active | superseded | rejected
  deriving DecidableEq

/-- The member's value, which is also how it prints. -/
def PlanState.value : PlanState → String
  | draft => "draft"
  | validated => "validated"
  | pendingApproval => "pending_approval"
  | approved => "approved"
  | active => "active"
  | superseded => "superseded"
  | rejected => "rejected"

structure GovernedPlan where
  id : String
  tenantId : String
  siteId : String
  version : Int
  state : PlanState
  stateVersion : String
  policyVersions : List String
  risk : RiskLevel
  hardViolations : List String := []
  requiredApprovers : Int := 0
  activatedAt : Option DateTime := none
  deriving DecidableEq

/-- `TRANSITIONS`. -/
def transitions : PlanState → List PlanState
  | .draft => [.validated, .rejected]
  | .validated => [.pendingApproval, .approved]
  | .pendingApproval => [.approved, .rejected]
  | .approved => [.active, .rejected]
  | .active => [.superseded]
  | .superseded => []
  | .rejected => []

structure PlanLifecycle where
  plans : Dict String GovernedPlan

/-- The arguments of `transition`. -/
structure Transition where
  planId : String
  target : PlanState
  expectedVersion : Int
  currentStateVersion : Option String := none
  atTime : Option DateTime := none
  deriving DecidableEq

namespace PlanLifecycle

def empty : PlanLifecycle := ⟨.empty⟩

def create (life : PlanLifecycle) (plan : GovernedPlan) : Except PyError PlanLifecycle :=
  if life.plans.contains plan.id then throw (.valueError "plan already exists")
  else pure ⟨life.plans.set plan.id plan⟩

/-- The plan a call is about, once every check on it has passed. -/
def checked (life : PlanLifecycle) (call : Transition) : Except PyError GovernedPlan := do
  let plan ← life.plans.getItem call.planId call.planId
  if plan.version ≠ call.expectedVersion then throw (.runtimeError "optimistic lock conflict")
  else if call.target ∉ transitions plan.state then
    throw (.valueError ("invalid plan transition " ++ plan.state.value ++ "->" ++
      call.target.value))
  else if plan.hardViolations ≠ [] ∧ call.target ∉ [PlanState.rejected] then
    throw (.valueError "plan with hard violations cannot advance")
  else if call.target = .active ∧ call.currentStateVersion ≠ some plan.stateVersion then
    throw (.valueError "stale plan rejected after material state change")
  else if call.target = .active ∧ plan.state ≠ .approved then
    throw (.valueError "only approved plan can become active")
  else pure plan

/-- The plan a call that passes its checks stores and returns. -/
def updated (plan : GovernedPlan) (call : Transition) : GovernedPlan :=
  { plan with
    version := plan.version + 1
    state := call.target
    activatedAt := if call.target = .active then call.atTime else plan.activatedAt }

def transition (life : PlanLifecycle) (call : Transition) :
    Except PyError GovernedPlan × PlanLifecycle :=
  match life.checked call with
  | .error e => (.error e, life)
  | .ok plan => (.ok (updated plan call), ⟨life.plans.set call.planId (updated plan call)⟩)

def get (life : PlanLifecycle) (planId tenantId : String) : Except PyError GovernedPlan := do
  let plan ← life.plans.getItem planId planId
  if plan.tenantId ≠ tenantId then throw (.permissionError "cross-tenant plan access")
  else pure plan

/-- What one call leaves behind. -/
def step (life : PlanLifecycle) (call : Transition) : PlanLifecycle := (life.transition call).2

/-- The calls about a plan that return, each with the plan it returns. -/
def returned (planId : String) :
    PlanLifecycle → List Transition → List (Transition × GovernedPlan)
  | _, [] => []
  | life, call :: rest =>
      match (life.transition call).1 with
      | .ok plan =>
          if call.planId = planId then (call, plan) :: returned planId (life.step call) rest
          else returned planId (life.step call) rest
      | .error _ => returned planId (life.step call) rest

end PlanLifecycle

end ComputeWeaver.Plans
