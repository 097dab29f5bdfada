/-
Api.Governance — plans and their approvals in the HTTP API
(`apps/api/main.py`: `POST /v1/plans`, `/validate`, `/submit-approval`,
`POST /v1/approvals`, `/approve`, `/reject`, `/modify`).

A handler works on two stores that know nothing of each other: the resource
store holds the plan with its `state` and `approval_id`, the approval
workflow holds the approval with its `plan_id`. The handlers of one process
share the lock of `OperationIdempotency`, so a request is one step. A
callback that raises half way keeps what it has done: `submit` stores the
plan as pending before the workflow accepts or refuses the approval.

All requests are of one tenant. A context is what the write dependency lets
through: an identity with a role that may write, and an idempotency key of
at least 8 characters. The audit log is left out.

`submittedBy` is not in the source. It records who last moved a plan into
approval.
-/
import ComputeWeaver.Api.Store
import ComputeWeaver.Approval.Workflow
import ComputeWeaver.Execution.Idempotency
import ComputeWeaver.Persistence.Operations

namespace ComputeWeaver.Api

open Lib Risk Approval Persistence

/-! ## Requests and state -/

/-- The roles `_authorize_request` allows to write. -/
def writeRoles : Finset String :=
  {"admin", "tenant_admin", "operator", "planner", "model_admin", "safety_admin"}

structure ApiContext where
  actorId : String
  roles : Finset String
  idempotencyKey : String
  ifMatch : Option String := none
  authorized : ∃ role ∈ roles, role ∈ writeRoles
  key_length : 8 ≤ idempotencyKey.length

structure ApprovalSubmission where
  expiresAt : DateTime
  requiredRoles : Finset String
  requiredCount : Nat

/-- The body of a 200 response. -/
inductive Response where
  | plan (plan : StoredResource)
  | submission (plan : StoredResource) (approval : Option ApprovalRequest)
  | approval (approval : ApprovalRequest)
  | decision (approval : ApprovalRequest) (plan : Option StoredResource)
  | cancellation (cancellation : Execution.Cancellation)
  | tariff (tariff : StoredResource)
  | synced (summary : Document)

structure Governed where
  store : ResourceStore
  workflow : ApprovalWorkflow
  submittedBy : Dict String String

structure ApiState where
  governed : Governed
  operations : OperationMemory Response

def ApiState.empty : ApiState := ⟨⟨.empty, .empty, .empty⟩, .empty⟩

structure GovernanceApi where
  env : PyEnv
  tenantId : String

/-- A body that changes nothing unless it returns. -/
def atomically (g : Governed) (body : Except PyError (Response × Governed)) :
    Except PyError Response × Governed :=
  match body with
  | .ok (response, g') => (.ok response, g')
  | .error e => (.error e, g)

/-! ## Secrets in request bodies -/

section

variable (env : PyEnv)

def isSecretKey (key : String) : Bool :=
  let normalized := String.ofList ((env.lower key).toList.map fun c => if c = '-' then '_' else c)
  normalized ≠ "credential_ref" &&
    (normalized ∈ ["password", "secret", "token", "private_key", "credentials"] ||
      ["_password", "_secret", "_token", "_private_key"].any fun ending =>
        ending.toList.isSuffixOf normalized.toList)

mutual

/-- `reject_inline_secrets`, with `room` calls that still fit on the stack. -/
def rejectInlineSecrets (room : Nat) (path : String) : Value → Except PyError Unit
  | .dict items =>
      if room = 0 then throw .recursionError else rejectSecretItems (room - 1) path items
  | .list items =>
      if room = 0 then throw .recursionError else rejectSecretList (room - 1) path 0 items
  | _ => if room = 0 then throw .recursionError else pure ()

def rejectSecretItems (room : Nat) (path : String) : List (String × Value) → Except PyError Unit
  | [] => pure ()
  | (key, item) :: rest => do
      if isSecretKey env key then
        throw (.valueError
          s!"inline secret material is prohibited at {path}.{key}; use credential_ref")
      rejectInlineSecrets room (path ++ "." ++ key) item
      rejectSecretItems room path rest

def rejectSecretList (room : Nat) (path : String) (index : Nat) : List Value → Except PyError Unit
  | [] => pure ()
  | item :: rest => do
      rejectInlineSecrets room (path ++ "[" ++ toString index ++ "]") item
      rejectSecretList room path (index + 1) rest

end

end

namespace GovernanceApi

variable (api : GovernanceApi)

/-- `audited_operation`. -/
def auditedOperation (context : ApiContext) (operation : String) (intent : Document)
    (callback : Governed → Except PyError Response × Governed) (x : ApiState) :
    Except PyError Response × ApiState :=
  let out := executeMemory api.env ⟨api.tenantId, context.idempotencyKey, operation, intent⟩
    callback x.operations x.governed
  (out.1, ⟨out.2.2, out.2.1⟩)

def requireIfMatch (context : ApiContext) (current : StoredResource) : Except PyError Unit :=
  match context.ifMatch with
  | none => throw (.runtimeError "If-Match is required for this state transition")
  | some etag =>
      if etag ≠ current.etag then
        throw (.runtimeError "If-Match optimistic concurrency conflict")
      else pure ()

/-- `RiskLevel(int(body["risk"]))`. -/
def riskOf (body : Document) : Except PyError RiskLevel := do
  RiskLevel.ofInt (← api.env.int (← docItem body "risk"))

def stateIs (body : Document) (state : String) : Bool :=
  (docGetD body "state" .none).isStr state

/-- The put of the next version of a plan: the stored body without its id,
with some fields set. -/
def planArgs (context : ApiContext) (planId : String) (body : Document) (fields : Document)
    (ifMatch : Option String) : PutArgs where
  kind := "plan"
  resourceId := planId
  tenantId := api.tenantId
  body := docUpdate (docWithout body "id") fields
  idempotencyKey := context.idempotencyKey ++ ":plan"
  ifMatch := ifMatch

/-! ## Plans -/

def planData (context : ApiContext) (data : Document) : Except PyError Document := do
  let risk ← RiskLevel.ofInt (← api.env.int (docGetD data "risk" (.int 0)))
  let body := docWith (docWith data "state" (.str "draft")) "risk" (.int risk.toInt)
  let body := docWith body "policy_versions"
    (.list (← PyEnv.list (docGetD data "policy_versions" (.list []))))
  let body := docWith body "hard_violations"
    (.list (← PyEnv.list (docGetD data "hard_violations" (.list []))))
  let body := docWith body "required_approvers"
    (.int (← api.env.int (docGetD data "required_approvers" (.int 0))))
  let body := docWith body "created_by" (.str context.actorId)
  if !(docGetD body "site_id" .none).truthy || !(docGetD body "state_version" .none).truthy then
    throw (.valueError "plan requires site_id and state_version")
  pure body

/-- `create_governed_plan`, with `mutate`. -/
def createPlan (context : ApiContext) (id : String) (data : Document) (x : ApiState) :
    Except PyError Response × ApiState :=
  let out := atomically x.governed do
    let body ← api.planData context data
    rejectInlineSecrets api.env api.env.recursionLimit "body" (.dict body)
    let (resource, store) ← x.governed.store.put api.env
      { kind := "plan", resourceId := id, tenantId := api.tenantId, body
        idempotencyKey := context.idempotencyKey, ifMatch := context.ifMatch }
    pure (.plan resource, { x.governed with store })
  (out.1, { x with governed := out.2 })

/-- `validate_governed_plan`; `now` is `datetime.now(UTC)`. -/
def validatePlan (context : ApiContext) (planId : String) (now : Int) (x : ApiState) :
    Except PyError Response × ApiState :=
  match x.governed.store.get "plan" planId api.tenantId with
  | .error e => (.error e, x)
  | .ok current =>
      api.auditedOperation context "plan.validate"
        [("version", .int current.version), ("etag", .str current.etag)]
        (fun g => atomically g do
          requireIfMatch context current
          if !stateIs current.body "draft" then
            throw (.valueError "only a draft plan can be validated")
          if (docGetD current.body "hard_violations" .none).truthy then
            throw (.valueError "plan with hard violations cannot be validated")
          if !(docGetD current.body "policy_versions" .none).truthy then
            throw (.valueError "plan validation requires exact policy versions")
          let (updated, store) ← g.store.put api.env (api.planArgs context planId current.body
            [("state", .str "validated"), ("validated_at", .time (.aware now)),
              ("validated_by", .str context.actorId)] context.ifMatch)
          pure (.plan updated, { g with store })) x

/-- `submission.expires_at <= datetime.now(UTC)` raises. -/
def checkExpiry (submission : ApprovalSubmission) (now : Int) : Except PyError Unit := do
  if ← (DateTime.aware now).ge submission.expiresAt then
    throw (.valueError "approval expiry must be in the future")

/-- `submission.model_dump(mode="json")`. -/
def submissionDocument (submission : ApprovalSubmission) : Document :=
  [("expires_at", .time submission.expiresAt),
    ("required_roles", .list ((pySortedSet submission.requiredRoles).map .str)),
    ("required_count", .int submission.requiredCount)]

/-- The approval a submission asks the workflow for. -/
def submittedRequest (context : ApiContext) (planId : String) (submission : ApprovalSubmission)
    (risk : RiskLevel) (version : Int) : ApprovalRequest where
  id := "approval-" ++ planId ++ "-" ++ toString (version + 1)
  planId := planId
  tenantId := api.tenantId
  risk := risk
  requestedBy := context.actorId
  expiresAt := submission.expiresAt
  requiredRoles := submission.requiredRoles
  requiredCount := submission.requiredCount

/-- The put in `submit`: the plan is pending from here on, or approved when
its risk asks for no approval. -/
def storeSubmitted (context : ApiContext) (planId : String) (current : StoredResource)
    (request : ApprovalRequest) (g : Governed) : Except PyError (StoredResource × Governed) := do
  requireIfMatch context current
  if !stateIs current.body "validated" then
    throw (.valueError "only a validated plan can enter approval")
  let fields : Document :=
    if RiskLevel.L2 ≤ request.risk then
      [("state", .str "pending_approval"), ("approval_id", .str request.id)]
    else [("state", .str "approved"), ("approval_id", .none)]
  let (updated, store) ← g.store.put api.env
    (api.planArgs context planId current.body fields context.ifMatch)
  pure (updated, { g with store, submittedBy := g.submittedBy.set planId context.actorId })

/-- `submit`. -/
def submit (context : ApiContext) (planId : String) (current : StoredResource)
    (request : ApprovalRequest) (g : Governed) : Except PyError Response × Governed :=
  match api.storeSubmitted context planId current request g with
  | .error e => (.error e, g)
  | .ok (updated, g) =>
      if RiskLevel.L2 ≤ request.risk then
        let out := g.workflow.create request
        (out.1.map fun _ => .submission updated (some request), { g with workflow := out.2 })
      else (.ok (.submission updated none), g)

/-- `submit_plan_approval`. -/
def submitPlanApproval (context : ApiContext) (planId : String) (submission : ApprovalSubmission)
    (now : Int) (x : ApiState) : Except PyError Response × ApiState :=
  match (do
      checkExpiry submission now
      let current ← x.governed.store.get "plan" planId api.tenantId
      pure (current, ← api.riskOf current.body)) with
  | .error e => (.error e, x)
  | .ok (current, risk) =>
      api.auditedOperation context "plan.submit_approval"
        (("version", .int current.version) :: submissionDocument submission)
        (api.submit context planId current
          (api.submittedRequest context planId submission risk current.version)) x

/-! ## Approvals -/

/-- The approval a request body describes. -/
def requestedApproval (context : ApiContext) (id : String) (data : Document) :
    Except PyError ApprovalRequest := do
  let planId := api.env.str (← docItem data "plan_id")
  let risk ← api.riskOf data
  let expiresAt ← api.env.isoTime (← docItem data "expires_at")
  let roles ← PyEnv.list (← docItem data "required_roles")
  let requiredCount ← api.env.int (← docItem data "required_count")
  pure { id, planId, tenantId := api.tenantId, risk, requestedBy := context.actorId, expiresAt
         requiredRoles := (roles.map api.env.str).toFinset, requiredCount }

/-- `create_approval`. -/
def createApproval (context : ApiContext) (id : String) (data : Document) (x : ApiState) :
    Except PyError Response × ApiState :=
  match api.requestedApproval context id data with
  | .error e => (.error e, x)
  | .ok request =>
      api.auditedOperation context "approval.create" data
        (fun g =>
          let out := g.workflow.create request
          (out.1.map fun _ => .approval request, { g with workflow := out.2 })) x

/-- The end of `approve` and `reject`: the plan an approval names follows its
decision, if it is stored and pending. -/
def movePlan (context : ApiContext) (approval : ApprovalRequest) (fields : Document)
    (g : Governed) : Except PyError Response × Governed :=
  match g.store.get "plan" approval.planId api.tenantId with
  | .error _ => (.ok (.decision approval none), g)
  | .ok plan =>
      if stateIs plan.body "pending_approval" then
        atomically g do
          let (updated, store) ← g.store.put api.env
            (api.planArgs context approval.planId plan.body fields (some plan.etag))
          pure (.decision approval (some updated), { g with store })
      else (.ok (.decision approval none), g)

/-- `approve`. -/
def approve (context : ApiContext) (approvalId role : String) (data : Document) (g : Governed) :
    Except PyError Response × Governed :=
  match (do api.env.isoTime (← docItem data "now")) with
  | .error e => (.error e, g)
  | .ok now =>
      match g.workflow.approve approvalId context.actorId role now with
      | (.error e, workflow) => (.error e, { g with workflow })
      | (.ok approval, workflow) =>
          if approval.status = .approved then
            api.movePlan context approval
              [("state", .str "approved"), ("approved_at", .time now)] { g with workflow }
          else (.ok (.decision approval none), { g with workflow })

/-- `approve_request`. -/
def approveRequest (context : ApiContext) (approvalId : String) (data : Document)
    (x : ApiState) : Except PyError Response × ApiState :=
  match docItem data "role" with
  | .error e => (.error e, x)
  | .ok value =>
      if api.env.str value ∉ context.roles then
        (.error (.permissionError "approval role is not assigned to authenticated identity"), x)
      else
        api.auditedOperation context "approval.approve" data
          (api.approve context approvalId (api.env.str value) data) x

/-- `reject`. -/
def reject (context : ApiContext) (approvalId : String) (now : Int) (g : Governed) :
    Except PyError Response × Governed :=
  match g.workflow.get approvalId with
  | .error e => (.error e, g)
  | .ok request =>
      if request.tenantId ≠ api.tenantId then
        (.error (.permissionError "cross-tenant approval access"), g)
      else match g.workflow.reject approvalId with
        | (.error e, workflow) => (.error e, { g with workflow })
        | (.ok rejected, workflow) =>
            api.movePlan context rejected
              [("state", .str "rejected"), ("rejected_at", .time (.aware now))]
              { g with workflow }

/-- `reject_request`. -/
def rejectRequest (context : ApiContext) (approvalId : String) (data : Document) (now : Int)
    (x : ApiState) : Except PyError Response × ApiState :=
  api.auditedOperation context "approval.reject" data (api.reject context approvalId now) x

/-- `modify_approval`. -/
def modifyApproval (context : ApiContext) (approvalId : String) (submission : ApprovalSubmission)
    (now : Int) (x : ApiState) : Except PyError Response × ApiState :=
  match checkExpiry submission now with
  | .error e => (.error e, x)
  | .ok () =>
      api.auditedOperation context "approval.modify" (submissionDocument submission)
        (fun g =>
          let out := g.workflow.modify approvalId context.actorId submission.expiresAt
            submission.requiredRoles submission.requiredCount
          (out.1.map .approval, { g with workflow := out.2 })) x

end GovernanceApi

/-! ## Sequences of requests -/

inductive ApiOp where
  | createPlan (context : ApiContext) (id : String) (data : Document)
  | validatePlan (context : ApiContext) (planId : String) (now : Int)
  | submitPlanApproval (context : ApiContext) (planId : String)
      (submission : ApprovalSubmission) (now : Int)
  | createApproval (context : ApiContext) (id : String) (data : Document)
  | approveRequest (context : ApiContext) (approvalId : String) (data : Document)
  | rejectRequest (context : ApiContext) (approvalId : String) (data : Document) (now : Int)
  | modifyApproval (context : ApiContext) (approvalId : String)
      (submission : ApprovalSubmission) (now : Int)

/-- The state after a request, whatever its response. -/
def ApiState.step (api : GovernanceApi) (x : ApiState) : ApiOp → ApiState
  | .createPlan context id data => (api.createPlan context id data x).2
  | .validatePlan context planId now => (api.validatePlan context planId now x).2
  | .submitPlanApproval context planId submission now =>
      (api.submitPlanApproval context planId submission now x).2
  | .createApproval context id data => (api.createApproval context id data x).2
  | .approveRequest context approvalId data => (api.approveRequest context approvalId data x).2
  | .rejectRequest context approvalId data now =>
      (api.rejectRequest context approvalId data now x).2
  | .modifyApproval context approvalId submission now =>
      (api.modifyApproval context approvalId submission now x).2

end ComputeWeaver.Api
