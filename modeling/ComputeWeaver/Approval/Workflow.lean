/-
Approval.Workflow — the in-memory approval workflow
(`packages/approval/workflow.py`, the branches taken without a Postgres
runtime).

Every operation holds the workflow's lock for its whole body, so an
operation is one step. It returns its outcome TOGETHER with the workflow
after it: `approve` on an expired request stores the status EXPIRED and
raises afterwards.

`required_roles` is a set, `approvals` the votes in the order cast, each
the pair of actor and role. `required_count` is an unchecked integer in the
source and stays one here.
-/
import ComputeWeaver.Lib.Run
import ComputeWeaver.Risk.Classifier

namespace ComputeWeaver.Approval

open Lib ComputeWeaver.Risk

inductive ApprovalStatus where
  | pending | approved | rejected | expired
  deriving DecidableEq, Repr

structure ApprovalRequest where
  id : String
  planId : String
  tenantId : String
  risk : RiskLevel
  requestedBy : String
  expiresAt : DateTime
  requiredRoles : Finset String
  requiredCount : Int
  approvals : List (String × String) := []
  status : ApprovalStatus := .pending
  deriving DecidableEq

/-- The workflow's state: the requests by id. -/
structure ApprovalWorkflow where
  requests : Dict String ApprovalRequest

namespace ApprovalWorkflow

/-- `ApprovalWorkflow()`. -/
def empty : ApprovalWorkflow := ⟨Dict.empty⟩

/-- `self._requests[request_id] = request`. -/
def store (w : ApprovalWorkflow) (requestId : String) (request : ApprovalRequest) :
    ApprovalWorkflow :=
  ⟨w.requests.set requestId request⟩

@[simp] theorem store_requests_get? (w : ApprovalWorkflow) (requestId requestId' : String)
    (request : ApprovalRequest) :
    (w.store requestId request).requests.get? requestId' =
      if requestId = requestId' then some request else w.requests.get? requestId' :=
  Dict.get?_set _ _ _ _

/-- The least number of votes a risk level asks for. -/
def minimum (risk : RiskLevel) : Int :=
  if RiskLevel.L3 ≤ risk then 2 else if RiskLevel.L2 ≤ risk then 1 else 0

/-- `create`: a second call with an equal request is accepted and changes
nothing. -/
def create (w : ApprovalWorkflow) (request : ApprovalRequest) :
    Except PyError Unit × ApprovalWorkflow :=
  if request.requiredCount < minimum request.risk then
    (.error (.valueError "approval count below risk minimum"), w)
  else if 0 < request.requiredCount ∧ request.requiredRoles = ∅ then
    (.error (.valueError "approval roles are required"), w)
  else match w.requests.get? request.id with
    | some existing =>
        if existing = request then (.ok (), w)
        else (.error (.valueError "approval ID already exists with different requirements"), w)
    | none => (.ok (), w.store request.id request)

/-- `approve`. -/
def approve (w : ApprovalWorkflow) (requestId actorId role : String) (now : DateTime) :
    Except PyError ApprovalRequest × ApprovalWorkflow :=
  match w.requests.get? requestId with
  | none => (.error (.keyError requestId), w)
  | some request =>
    if request.status ≠ .pending then (.error (.valueError "approval is not pending"), w)
    else match now.ge request.expiresAt with
      | .error e => (.error e, w)
      | .ok true =>
          (.error (.valueError "approval expired"),
            w.store requestId { request with status := .expired })
      | .ok false =>
        if actorId = request.requestedBy then
          (.error (.permissionError "requester cannot approve own high-risk action"), w)
        else if role ∉ request.requiredRoles then
          (.error (.permissionError "actor role cannot approve request"), w)
        else if request.approvals.any (fun vote => vote.1 = actorId) then (.ok request, w)
        else
          let approvals := request.approvals ++ [(actorId, role)]
          let status : ApprovalStatus :=
            if request.requiredCount ≤ approvals.length then .approved else .pending
          let updated := { request with approvals, status }
          (.ok updated, w.store requestId updated)

/-- `reject`: rejecting a rejected request again is accepted. -/
def reject (w : ApprovalWorkflow) (requestId : String) :
    Except PyError ApprovalRequest × ApprovalWorkflow :=
  match w.requests.get? requestId with
  | none => (.error (.keyError requestId), w)
  | some request =>
    if request.status = .rejected then (.ok request, w)
    else if request.status ≠ .pending then (.error (.valueError "approval is not pending"), w)
    else
      let updated := { request with status := .rejected }
      (.ok updated, w.store requestId updated)

/-- `_validate_modification`. -/
def validateModification (status : ApprovalStatus) (requestedBy actorId : String)
    (risk : RiskLevel) (expiresAt : DateTime) (requiredRoles : Finset String)
    (requiredCount : Int) (voteCount : Nat) : Except PyError Unit :=
  if status ≠ .pending ∨ voteCount ≠ 0 then
    throw (.valueError "only an unvoted pending approval can be modified")
  else if actorId ≠ requestedBy then
    throw (.permissionError "only the approval requester can modify it")
  else if requiredCount < minimum risk ∨ (requiredCount ≠ 0 ∧ requiredRoles = ∅) then
    throw (.valueError "approval requirements are below the risk minimum")
  else if expiresAt.isNaive then
    throw (.valueError "approval expiry must be timezone-aware")
  else pure ()

/-- `modify`. -/
def modify (w : ApprovalWorkflow) (requestId actorId : String) (expiresAt : DateTime)
    (requiredRoles : Finset String) (requiredCount : Int) :
    Except PyError ApprovalRequest × ApprovalWorkflow :=
  match w.requests.get? requestId with
  | none => (.error (.keyError requestId), w)
  | some request =>
    match validateModification request.status request.requestedBy actorId request.risk
        expiresAt requiredRoles requiredCount request.approvals.length with
    | .error e => (.error e, w)
    | .ok () =>
      let updated := { request with expiresAt, requiredRoles, requiredCount }
      (.ok updated, w.store requestId updated)

/-- `get`. -/
def get (w : ApprovalWorkflow) (requestId : String) : Except PyError ApprovalRequest :=
  w.requests.getItem requestId requestId

/-- `list`: the requests of one tenant, by id. -/
def list (w : ApprovalWorkflow) (tenantId : String) : List ApprovalRequest :=
  pySorted (fun a b => decide (a.id ≤ b.id))
    ((w.requests.entries.map Prod.snd).filter fun request => request.tenantId = tenantId)

end ApprovalWorkflow

/-! ## Sequences of operations -/

/-- A request as every caller of `create` builds it: PENDING, no votes. -/
def NewRequest : Type :=
  { request : ApprovalRequest // request.status = .pending ∧ request.approvals = [] }

inductive WorkflowOp where
  | create (request : NewRequest)
  | approve (requestId actorId role : String) (now : DateTime)
  | reject (requestId : String)
  | modify (requestId actorId : String) (expiresAt : DateTime) (requiredRoles : Finset String)
      (requiredCount : Int)

/-- The workflow after a call, whether the call returned or raised. -/
def ApprovalWorkflow.step (w : ApprovalWorkflow) : WorkflowOp → ApprovalWorkflow
  | .create request => (w.create request.val).2
  | .approve requestId actorId role now => (w.approve requestId actorId role now).2
  | .reject requestId => (w.reject requestId).2
  | .modify requestId actorId expiresAt requiredRoles requiredCount =>
      (w.modify requestId actorId expiresAt requiredRoles requiredCount).2

end ComputeWeaver.Approval
