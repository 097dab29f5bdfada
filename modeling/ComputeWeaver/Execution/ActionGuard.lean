/-
Execution.ActionGuard — the guard in front of every action
(`packages/execution/action_guard.py`).

`evaluate` collects the reasons against an action and allows it when there are
none. It decides from the action, the approval it is given and the caller's
`now` and `current_state_version`; it looks nothing up.
-/
import ComputeWeaver.Approval.Workflow
import ComputeWeaver.Lib.Decimal

namespace ComputeWeaver.Execution

open Lib Risk Approval

structure Action where
  id : String
  planId : String
  tenantId : String
  target : String
  kind : String
  expectedStateVersion : String
  parameters : Document
  bounds : Dict String (PyDecimal × PyDecimal)
  timeoutSeconds : Int
  idempotencyKey : String
  risk : RiskLevel
  createdAt : DateTime
  compensationKind : Value

structure GuardDecision where
  allowed : Bool
  reasons : List String
  deriving DecidableEq

/-- `max_age` is in microseconds. -/
structure ActionGuard where
  whitelist : Finset String
  maxAge : Int := 5 * 60 * 1000000

namespace ActionGuard

def prohibitedEnergyCommands : Finset String := {"breaker", "relay", "pcs_switch", "firmware"}

/-- `now - created_at > max_age`. -/
def isStale (guard : ActionGuard) (now createdAt : DateTime) : Except PyError Bool :=
  if DateTime.Comparable now createdAt then
    pure (decide (guard.maxAge < now.micros - createdAt.micros))
  else throw .typeError

/-- What one pass of the loop over the bounds appends. -/
def boundReasons (env : PyEnv) (parameters : Document) (name : String)
    (minimum maximum : PyDecimal) : Except PyError (List String) :=
  match (do env.decimal (← docItem parameters name)) with
  | .error (.keyError _) => pure ["BOUND_VALUE_MISSING:" ++ name]
  | .error (.valueError _) => pure ["BOUND_VALUE_MISSING:" ++ name]
  | .error e => throw e
  | .ok value => do
      if !(← minimum.le value) then pure ["BOUND_VIOLATION:" ++ name]
      else if !(← value.le maximum) then pure ["BOUND_VIOLATION:" ++ name]
      else pure []

/-- The reasons against the approval; an action of low risk needs none. -/
def approvalReasons (action : Action) (now : DateTime) (approval : Option ApprovalRequest) :
    Except PyError (List String) :=
  if RiskLevel.L2 ≤ action.risk then
    match approval with
    | none => pure ["VALID_APPROVAL_REQUIRED"]
    | some approval =>
        if approval.status ≠ .approved then pure ["VALID_APPROVAL_REQUIRED"]
        else if approval.planId ≠ action.planId ∨ approval.tenantId ≠ action.tenantId then
          pure ["APPROVAL_SCOPE_MISMATCH"]
        else do
          if ← now.ge approval.expiresAt then pure ["APPROVAL_EXPIRED"] else pure []
  else pure []

def evaluate (env : PyEnv) (guard : ActionGuard) (action : Action) (currentStateVersion : String)
    (now : DateTime) (approval : Option ApprovalRequest) : Except PyError GuardDecision := do
  let kind := if action.kind ∉ guard.whitelist then ["ACTION_NOT_WHITELISTED"] else []
  let energy :=
    if action.kind ∈ prohibitedEnergyCommands then ["PROHIBITED_LOW_LEVEL_ENERGY_COMMAND"] else []
  let state :=
    if currentStateVersion ≠ action.expectedStateVersion then ["STALE_TARGET_STATE"] else []
  let age := if ← guard.isStale now action.createdAt then ["STALE_ACTION"] else []
  let bounds ← action.bounds.entries.mapM fun bound =>
    boundReasons env action.parameters bound.1 bound.2.1 bound.2.2
  let approvals ← approvalReasons action now approval
  let reasons := kind ++ energy ++ state ++ age ++ bounds.flatten ++ approvals
  pure ⟨reasons.isEmpty, reasons⟩

end ActionGuard

def apiGuard : ActionGuard := ⟨{"schedule_job", "set_dispatch_plan"}, 5 * 60 * 1000000⟩

end ComputeWeaver.Execution
