/-
Api.Actions — actions in the HTTP API (`apps/api/main.py`:
`POST /v1/actions/{id}/execute` and `/cancel`).

`execute_action` parses the action from the request body, looks up the
approval that the body names, asks the guard, and goes through the execution
store to the adapter. Everything the guard compares is in the body: the risk of
the action, its age, the state version it expects and the one that is current.
The plan that the action names is not looked up.

What the adapter answers is an input of the request. The other handlers of the
API reach the state modelled here by writing resources of other kinds, so a
request of theirs is a `write`; one that is refused or answered from the
idempotency table is one that did not happen.
-/
import ComputeWeaver.Api.Governance
import ComputeWeaver.Execution.ActionGuard

namespace ComputeWeaver.Api

open Lib Risk Approval Persistence Execution

/-- The API with the setting `environment`. -/
structure ActionApi extends GovernanceApi where
  environment : String

structure ActionState where
  base : ApiState
  executions : IdempotencyStore Value

def ActionState.empty : ActionState := ⟨.empty, .empty⟩

/-- How an execution ends, and the action the adapter was called with. -/
structure ExecuteOutcome where
  result : Except PyError Value
  invoked : Option Action

namespace ActionApi

variable (api : ActionApi)

/-- `{str(name): (Decimal(str(bounds[0])), Decimal(str(bounds[1]))) for …}`. -/
def parseBounds (bounds : Document) : Except PyError (Dict String (PyDecimal × PyDecimal)) := do
  let entries ← bounds.mapM fun bound => do
    let minimum ← api.env.decimal (← bound.2.item 0)
    let maximum ← api.env.decimal (← bound.2.item 1)
    pure (bound.1, minimum, maximum)
  pure (entries.foldl (fun d entry => d.set entry.1 entry.2) .empty)

/-- `parse_action`. -/
def parseAction (actionId : String) (data : Document) : Except PyError Action := do
  let planId := api.env.str (← docItem data "plan_id")
  let target := api.env.str (← docItem data "target")
  let kind := api.env.str (← docItem data "kind")
  let expectedStateVersion := api.env.str (← docItem data "expected_state_version")
  let parameters ← PyEnv.dict (← docItem data "parameters")
  let bounds ← api.parseBounds (← PyEnv.dict (docGetD data "bounds" (.dict [])))
  let timeoutSeconds ← api.env.int (docGetD data "timeout_seconds" (.int 30))
  let idempotencyKey := api.env.str (← docItem data "idempotency_key")
  let risk ← api.riskOf data
  let createdAt ← api.env.isoTime (← docItem data "created_at")
  pure { id := actionId, planId, tenantId := api.tenantId, target, kind, expectedStateVersion
         parameters, bounds, timeoutSeconds, idempotencyKey, risk, createdAt
         compensationKind := docGetD data "compensation_kind" .none }

/-- The approval that the body names, if it names one. -/
def namedApproval (workflow : ApprovalWorkflow) (data : Document) :
    Except PyError (Option ApprovalRequest) :=
  if (docGetD data "approval_id" .none).truthy then do
    pure (some (← workflow.get (api.env.str (← docItem data "approval_id"))))
  else pure none

/-- The part of `execute_action` in front of the execution store. -/
def admitAction (workflow : ApprovalWorkflow) (actionId : String) (data : Document) :
    Except PyError Action := do
  let action ← api.parseAction actionId data
  let approval ← api.namedApproval workflow data
  let currentStateVersion := api.env.str (← docItem data "current_state_version")
  let now ← api.env.isoTime (← docItem data "now")
  let decision ← apiGuard.evaluate api.env action currentStateVersion now approval
  if !decision.allowed then
    throw (.permissionError
      ("Action Guard rejected: " ++ api.env.str (.list (decision.reasons.map .str))))
  pure action

/-- `execute_with_adapter`. -/
def executeWithAdapter (adapter : Action → Except PyError Value) (action : Action) :
    ExecuteOutcome :=
  if action.target = "simulator" ∧ api.environment ∉ ["test", "simulator"] then
    ⟨.error (.permissionError "simulator actions cannot be executed by a production API"), none⟩
  else ⟨adapter action, some action⟩

/-- What `execute_action` hands to `execute_once`. -/
def executeArgs (action : Action) : ExecuteArgs where
  key := action.idempotencyKey
  intent := [("action", .str action.id), ("parameters", .dict action.parameters)]
  tenantId := some api.tenantId
  actionId := some action.id

/-- `execute_action`. -/
def executeAction (actionId : String) (data : Document) (adapter : Action → Except PyError Value)
    (x : ActionState) : ExecuteOutcome × ActionState :=
  match api.admitAction x.base.governed.workflow actionId data with
  | .error e => (⟨.error e, none⟩, x)
  | .ok action =>
      match x.executions.start api.env (api.executeArgs action) with
      | (.error e, executions) => (⟨.error e, none⟩, { x with executions })
      | (.ok (some result), executions) => (⟨.ok result, none⟩, { x with executions })
      | (.ok none, executions) =>
          let execution := api.executeWithAdapter adapter action
          match execution.result with
          | .ok result =>
              (execution,
                { x with executions := executions.finish api.env (api.executeArgs action) result })
          | .error _ =>
              (execution,
                { x with executions := executions.fail api.env (api.executeArgs action) })

/-- `cancel_action`. -/
def cancelAction (context : ApiContext) (actionId bodyId : String) (data : Document)
    (x : ActionState) : Except PyError Response × ActionState :=
  if bodyId ≠ actionId then (.error (.valueError "action ID mismatch"), x)
  else
    let reason := pyStrip (api.env.str (docGetD data "reason" (.str "")))
    let out := executeMemory api.env
      ⟨api.tenantId, context.idempotencyKey, "action.cancel", [("reason", .str reason)]⟩
      (fun executions =>
        let out := executions.cancel actionId api.tenantId context.actorId reason
        (out.1.map .cancellation, out.2)) x.base.operations x.executions
    (out.1, ⟨{ x.base with operations := out.2.1 }, out.2.2⟩)

end ActionApi

/-! ## Sequences of requests -/

inductive ActionOp where
  | request (op : ApiOp)
  | execute (actionId : String) (data : Document) (adapter : Action → Except PyError Value)
  | cancel (context : ApiContext) (actionId bodyId : String) (data : Document)
  | write (args : PutArgs) (hkind : args.kind ≠ "plan")

/-- The state after a request, whatever its response. -/
def ActionState.step (api : ActionApi) (x : ActionState) : ActionOp → ActionState
  | .request op => { x with base := x.base.step api.toGovernanceApi op }
  | .execute actionId data adapter => (api.executeAction actionId data adapter x).2
  | .cancel context actionId bodyId data => (api.cancelAction context actionId bodyId data x).2
  | .write args _ =>
      { x with base.governed.store := x.base.governed.store.step api.env args }

end ComputeWeaver.Api
