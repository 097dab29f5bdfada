/-
Api.KeyBinding — what an idempotency key of the HTTP API is bound
to (`apps/api/main.py`: every caller of `audited_operation`, `execute_action`,
`mutate`).

A key is looked up in one of three tables: the operations of
`audited_operation`, the executions of `execute_action`, the writes of the
resource store. Each table keeps a digest with the response, and answers a
second request with the recorded response when its digest is the same.

`AuditedRequest` has a case for every call of `audited_operation` in the
source, except that the endpoints whose intent is the body of the request are
one case, `body`. It holds what the handler has computed when it makes the
call: the `resource` argument, what it takes from the request (`content`), and
what it looked up. The `resource` argument goes to the audit log only; the
table sees `operation` and `intent`. `WriteRequest` does the same for the requests
that end in a write of the resource store, whose digest covers what is stored.

What a callback or an adapter answers is an input of the request (`KeyedOutcome`).
-/
import ComputeWeaver.Api.Actions
import ComputeWeaver.Api.Transitions

namespace ComputeWeaver.Api

open Lib Persistence Execution Risk

/-! ## Endpoints -/

/-- The endpoints that pass the body of the request as the intent. -/
inductive BodyEndpoint where
  | createSimulation
  | operateSimulation (operation : String)
  | recoveryPlan
  | configureQuota
  | createMpcCycle
  | publishPolicy
  | createApproval
  | approveRequest
  | rejectRequest
  | registerModel
  | promoteModel
  | rollbackModel
  deriving DecidableEq

inductive Endpoint where
  | body (endpoint : BodyEndpoint)
  | enqueueSystemJob
  | putArtifact
  | createTopologyDraft
  | publishTopology
  | syncConnector
  | rollbackAdminConfig
  | publishTariff
  | validateGovernedPlan
  | compareGovernedPlans
  | submitPlanApproval
  | modifyApproval
  | testComputeConnector
  | syncComputeConnector
  | cancelAction
  | requestCertificationEvidence
  | runCertification
  | publishCertification
  | revokeCertification
  deriving DecidableEq

def BodyEndpoint.operation : BodyEndpoint → String
  | createSimulation => "simulation.create"
  | operateSimulation operation => "simulation." ++ operation
  | recoveryPlan => "recovery.plan"
  | configureQuota => "quota.configure"
  | createMpcCycle => "mpc.cycle"
  | publishPolicy => "policy.publish"
  | createApproval => "approval.create"
  | approveRequest => "approval.approve"
  | rejectRequest => "approval.reject"
  | registerModel => "model.register"
  | promoteModel => "model.promote"
  | rollbackModel => "model.rollback"

/-- The `operation` argument of `audited_operation`. -/
def Endpoint.operation : Endpoint → String
  | body endpoint => endpoint.operation
  | enqueueSystemJob => "durable_job.enqueue"
  | putArtifact => "artifact.put"
  | createTopologyDraft => "topology.draft.create"
  | publishTopology => "topology.publish"
  | syncConnector => "connector.sync"
  | rollbackAdminConfig => "admin_config.rollback"
  | publishTariff => "tariff.publish"
  | validateGovernedPlan => "plan.validate"
  | compareGovernedPlans => "plan.compare"
  | submitPlanApproval => "plan.submit_approval"
  | modifyApproval => "approval.modify"
  | testComputeConnector => "connector.test"
  | syncComputeConnector => "compute_connector.sync"
  | cancelAction => "action.cancel"
  | requestCertificationEvidence => "certification.evidence_request"
  | runCertification => "certification.run"
  | publishCertification => "certification.publish"
  | revokeCertification => "certification.revoke"

/-! ## Audited requests -/

/-- A call of `audited_operation`. The bytes of an artifact are given by their
SHA-256, an approval submission and a sync by what they were parsed to. -/
inductive AuditedRequest where
  | body (endpoint : BodyEndpoint) (resource : String) (data : Document)
  | enqueueSystemJob (id kind : String) (payload : Document) (maxAttempts : Value)
  | putArtifact (artifactKey sha256 contentType : String)
  | createTopologyDraft (tenantId : String) (assets relationships : List Value)
  | publishTopology (version : String) (expectedDraftRevision : Int)
  | syncConnector (connectorId : String) (request : Service.SyncRequest)
  | rollbackAdminConfig (configId : String) (targetVersion : Int) (ifMatch : String)
  | publishTariff (tariffId : String) (current : StoredResource)
  | validateGovernedPlan (planId : String) (current : StoredResource)
  | compareGovernedPlans (planId : String) (baselineVersion : Int) (candidateId : String)
      (candidateVersion : Int)
  | submitPlanApproval (planId : String) (version : Int) (submission : ApprovalSubmission)
  | modifyApproval (approvalId : String) (submission : ApprovalSubmission)
  | testComputeConnector (connectorId : String) (connectorVersion : Int)
  | syncComputeConnector (connectorId : String) (configuration : StoredResource)
  | cancelAction (actionId reason : String)
  | requestCertificationEvidence (releaseId revision : String) (requirements : Document)
      (validForHours : Int)
  | runCertification (releaseId revision : String)
  | publishCertification (releaseId revision certificateHash : String)
  | revokeCertification (releaseId reason : String)

namespace AuditedRequest

def endpoint : AuditedRequest → Endpoint
  | body endpoint _ _ => .body endpoint
  | enqueueSystemJob .. => .enqueueSystemJob
  | putArtifact .. => .putArtifact
  | createTopologyDraft .. => .createTopologyDraft
  | publishTopology .. => .publishTopology
  | syncConnector .. => .syncConnector
  | rollbackAdminConfig .. => .rollbackAdminConfig
  | publishTariff .. => .publishTariff
  | validateGovernedPlan .. => .validateGovernedPlan
  | compareGovernedPlans .. => .compareGovernedPlans
  | submitPlanApproval .. => .submitPlanApproval
  | modifyApproval .. => .modifyApproval
  | testComputeConnector .. => .testComputeConnector
  | syncComputeConnector .. => .syncComputeConnector
  | cancelAction .. => .cancelAction
  | requestCertificationEvidence .. => .requestCertificationEvidence
  | runCertification .. => .runCertification
  | publishCertification .. => .publishCertification
  | revokeCertification .. => .revokeCertification

/-- The `intent` argument. -/
def intent : AuditedRequest → Document
  | body _ _ data => data
  | enqueueSystemJob _ kind payload maxAttempts =>
      [("kind", .str kind), ("payload", .dict payload), ("max_attempts", maxAttempts)]
  | putArtifact _ sha256 contentType =>
      [("sha256", .str sha256), ("content_type", .str contentType)]
  | createTopologyDraft _ assets relationships =>
      [("assets", .list assets), ("relationships", .list relationships)]
  | publishTopology version expectedDraftRevision =>
      [("version", .str version), ("expected_draft_revision", .int expectedDraftRevision)]
  | syncConnector _ request => request.intent
  | rollbackAdminConfig _ targetVersion ifMatch =>
      [("target_version", .int targetVersion), ("if_match", .str ifMatch)]
  | publishTariff _ current => [("version", .int current.version), ("etag", .str current.etag)]
  | validateGovernedPlan _ current =>
      [("version", .int current.version), ("etag", .str current.etag)]
  | compareGovernedPlans _ baselineVersion candidateId candidateVersion =>
      [("baseline_version", .int baselineVersion), ("candidate_id", .str candidateId),
        ("candidate_version", .int candidateVersion)]
  | submitPlanApproval _ version submission =>
      ("version", .int version) :: GovernanceApi.submissionDocument submission
  | modifyApproval _ submission => GovernanceApi.submissionDocument submission
  | testComputeConnector _ connectorVersion => [("connector_version", .int connectorVersion)]
  | syncComputeConnector _ configuration =>
      [("connector_version", .int configuration.version),
        ("connector_etag", .str configuration.etag)]
  | cancelAction _ reason => [("reason", .str reason)]
  | requestCertificationEvidence releaseId revision _ _ =>
      [("release_id", .str releaseId), ("source_revision", .str revision)]
  | runCertification releaseId revision =>
      [("release_id", .str releaseId), ("source_revision", .str revision)]
  | publishCertification releaseId revision certificateHash =>
      [("release_id", .str releaseId), ("source_revision", .str revision),
        ("certificate_hash", .str certificateHash)]
  | revokeCertification releaseId reason =>
      [("release_id", .str releaseId), ("reason", .str reason)]

/-- The `resource` argument. -/
def resource : AuditedRequest → String
  | body _ resource _ => resource
  | enqueueSystemJob id _ _ _ => id
  | putArtifact artifactKey _ _ => artifactKey
  | createTopologyDraft tenantId _ _ => tenantId
  | publishTopology version _ => version
  | syncConnector connectorId _ => connectorId
  | rollbackAdminConfig configId _ _ => configId
  | publishTariff tariffId _ => tariffId
  | validateGovernedPlan planId _ => planId
  | compareGovernedPlans planId _ _ _ => planId
  | submitPlanApproval planId _ _ => planId
  | modifyApproval approvalId _ => approvalId
  | testComputeConnector connectorId _ => connectorId
  | syncComputeConnector connectorId _ => connectorId
  | cancelAction actionId _ => actionId
  | requestCertificationEvidence releaseId _ _ _ => releaseId
  | runCertification releaseId _ => releaseId
  | publishCertification releaseId _ _ => releaseId
  | revokeCertification releaseId _ => releaseId

/-- What the handler takes from the request itself, apart from the resource: the
intent, unless that names the resource or what was looked up, or leaves something out. -/
def content : AuditedRequest → Document
  | publishTopology _ expectedDraftRevision =>
      [("expected_draft_revision", .int expectedDraftRevision)]
  | syncConnector _ request =>
      [("stream", .str request.stream), ("start", request.start.shown),
        ("end", request.stop.shown)]
  | publishTariff .. => []
  | validateGovernedPlan .. => []
  | compareGovernedPlans _ _ candidateId _ => [("candidate_id", .str candidateId)]
  | submitPlanApproval _ _ submission => GovernanceApi.submissionDocument submission
  | testComputeConnector .. => []
  | syncComputeConnector .. => []
  | requestCertificationEvidence _ revision requirements validForHours =>
      [("source_revision", .str revision), ("requirements", .dict requirements),
        ("valid_for_hours", .int validForHours)]
  | runCertification _ revision => [("source_revision", .str revision)]
  | publishCertification _ revision certificateHash =>
      [("source_revision", .str revision), ("certificate_hash", .str certificateHash)]
  | revokeCertification _ reason => [("reason", .str reason)]
  | request => request.intent

/-- What the handler hands to `execute_once`. -/
def args (request : AuditedRequest) (tenantId key : String) : OperationArgs :=
  ⟨tenantId, key, request.endpoint.operation, request.intent⟩

end AuditedRequest

/-! ## Requests that write a resource -/

/-- The endpoints that write to the resource store: the generic collections and the
configuration, `cancel_job`, `create_governed_plan`, those that store a result (a
benchmark, an optimization run and its explanation, an evaluation, a what-if, a
forecast, a report), and the callbacks, which write under a key derived from the key
of their request. -/
inductive WriteEndpoint where
  | collection (kind : String)
  | cancelJob
  | createGovernedPlan
  | computed (kind : String)
  | callback (operation kind : String)
  deriving DecidableEq

def WriteEndpoint.kind : WriteEndpoint → String
  | collection kind => kind
  | cancelJob => "job_cancel"
  | createGovernedPlan => "plan"
  | computed kind => kind
  | callback _ kind => kind

/-- What `create_governed_plan` puts over the data of the request. -/
structure PlanFields where
  risk : RiskLevel
  policyVersions : List Value
  hardViolations : List Value
  requiredApprovers : Int
  createdBy : String

def PlanFields.document (fields : PlanFields) : Document :=
  [("state", .str "draft"), ("risk", .int fields.risk.toInt),
    ("policy_versions", .list fields.policyVersions),
    ("hard_violations", .list fields.hardViolations),
    ("required_approvers", .int fields.requiredApprovers), ("created_by", .str fields.createdBy)]

/-- A request that ends in a write. `data` is the data of its body; `bodyId` is the id
in the body of a `cancel_job`, which takes the one in the path. -/
inductive WriteRequest where
  | collection (kind resourceId : String) (data : Document)
  | cancelJob (resourceId bodyId : String) (data : Document)
  | createGovernedPlan (planId : String) (data : Document) (fields : PlanFields)
      (nodup : (data.map Prod.fst).Nodup)
  | computed (kind resourceId : String) (data result : Document)
  | callback (operation kind resourceId : String) (data body : Document)

namespace WriteRequest

def endpoint : WriteRequest → WriteEndpoint
  | collection kind _ _ => .collection kind
  | cancelJob .. => .cancelJob
  | createGovernedPlan .. => .createGovernedPlan
  | computed kind _ _ _ => .computed kind
  | callback operation kind _ _ _ => .callback operation kind

def resourceId : WriteRequest → String
  | collection _ resourceId _ => resourceId
  | cancelJob resourceId _ _ => resourceId
  | createGovernedPlan planId _ _ _ => planId
  | computed _ resourceId _ _ => resourceId
  | callback _ _ resourceId _ _ => resourceId

/-- What is stored. -/
def body : WriteRequest → Document
  | collection _ _ data => data
  | cancelJob _ _ data => data
  | createGovernedPlan _ data fields _ => docUpdate data fields.document
  | computed _ _ _ result => result
  | callback _ _ _ _ body => body

/-- What the request itself says, apart from the resource it addresses. -/
def content : WriteRequest → Document
  | collection _ _ data => data
  | cancelJob _ bodyId data => [("id", .str bodyId), ("data", .dict data)]
  | createGovernedPlan _ data _ _ => data
  | computed _ _ data _ => data
  | callback _ _ _ data _ => data

def args (request : WriteRequest) (tenantId key : String) (ifMatch : Option String) : PutArgs :=
  ⟨request.endpoint.kind, request.resourceId, tenantId, request.body, key, ifMatch⟩

end WriteRequest

/-! ## Requests and the tables they look their key up in -/

/-- A request under an idempotency key. `rest` is what its body says besides: the
fields that the handler does not read, and an id where it takes the one in the path. -/
inductive KeyedRequest where
  | audited (key : String) (request : AuditedRequest) (rest : Document)
  | execute (action : Action) (rest : Document)
  | write (key : String) (ifMatch : Option String) (request : WriteRequest)

/-- `ρ` is what callbacks return, `τ` what the adapter does. -/
structure KeyTables (ρ τ : Type) where
  operations : OperationMemory ρ
  executions : IdempotencyStore τ
  store : ResourceStore

/-- How the callback or the adapter ends, if it is called. -/
structure KeyedOutcome (ρ τ : Type) where
  callback : Except PyError ρ
  adapter : Except PyError τ

/-- The body of a response. -/
inductive Reply (ρ τ : Type) where
  | returned (result : ρ)
  | executed (result : τ)
  | stored (resource : StoredResource)

/-- How a request ends: answered with a recorded response, or run. -/
inductive Served (ρ τ : Type) where
  | recorded (reply : Reply ρ τ)
  | ran (reply : Reply ρ τ)
  | raised (error : PyError)

namespace KeyTables

variable {ρ τ : Type} (api : ActionApi)

def serve (x : KeyTables ρ τ) (outcome : KeyedOutcome ρ τ) :
    KeyedRequest → Served ρ τ × KeyTables ρ τ
  | .audited key request _ =>
      -- the callback counts its calls
      let out := executeMemory api.env (request.args api.tenantId key)
        (fun calls : Nat => (outcome.callback, calls + 1)) x.operations 0
      match out.1 with
      | .error e => (.raised e, { x with operations := out.2.1 })
      | .ok result =>
          (if out.2.2 = 0 then .recorded (.returned result) else .ran (.returned result),
            { x with operations := out.2.1 })
  | .execute action _ =>
      match x.executions.start api.env (api.executeArgs action) with
      | (.error e, executions) => (.raised e, { x with executions })
      | (.ok (some result), executions) => (.recorded (.executed result), { x with executions })
      | (.ok none, executions) =>
          match outcome.adapter with
          | .ok result => (.ran (.executed result),
              { x with executions := executions.finish api.env (api.executeArgs action) result })
          | .error e => (.raised e,
              { x with executions := executions.fail api.env (api.executeArgs action) })
  | .write key ifMatch request =>
      match x.store.put api.env (request.args api.tenantId key ifMatch) with
      | .error e => (.raised e, x)
      | .ok (resource, store) =>
          (if x.store.idempotency.contains (api.tenantId, key) then
              .recorded (.stored resource)
            else .ran (.stored resource),
            { x with store })

end KeyTables

/-- A request, or a cancellation that a request makes in the execution
store. -/
inductive KeyedOp (ρ τ : Type) where
  | serve (request : KeyedRequest) (outcome : KeyedOutcome ρ τ)
  | cancel (actionId actorId reason : String)

/-- The tables after a request, whatever its response. -/
def KeyTables.step {ρ τ : Type} (api : ActionApi) (x : KeyTables ρ τ) :
    KeyedOp ρ τ → KeyTables ρ τ
  | .serve request outcome => (x.serve api outcome request).2
  | .cancel actionId actorId reason =>
      { x with executions := (x.executions.cancel actionId api.tenantId actorId reason).2 }

end ComputeWeaver.Api
