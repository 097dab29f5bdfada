/-
Api.Interference — a vote whose plan cannot follow at once
(`apps/api/main.py`, `approve_request` between its vote and its put).

`approve` records the vote, reads the plan and puts its next version. The lock
of `OperationIdempotency` keeps other operations out for that time, but not
the handlers that write without it (`mutate`), and the store itself can fail.
`Interference` is what may happen to one call: the read raises, other handlers
write between the read and the put, the put raises. Without any of it the
call is the one of `Api.Governance` (`approveRequestAmid_quiet`).

A handler that writes without the lock may write a resource of any kind, but a
plan only as a draft: `create_governed_plan` is the one that writes plans, and
it sets the state. `OutsidePut` has that as a field.
-/
import ComputeWeaver.Api.Governance

namespace ComputeWeaver.Api

open Lib Risk Approval Persistence

/-- A put of a handler that does not hold the lock. -/
structure OutsidePut where
  args : PutArgs
  draft : args.kind = "plan" → assocGet args.body "state" = some (.str "draft")

/-- What happens to a call after its vote. -/
structure Interference where
  readFailure : Option PyError := none
  writes : List OutsidePut := []
  writeFailure : Option PyError := none

/-- Nothing does. -/
def Interference.quiet : Interference := {}

def ResourceStore.stepOutside (env : PyEnv) (store : ResourceStore) (write : OutsidePut) :
    ResourceStore :=
  store.step env write.args

namespace GovernanceApi

variable (api : GovernanceApi) (amid : Interference)

/-- The store the put of the call meets. -/
def storeAmid (store : ResourceStore) : ResourceStore :=
  run (ResourceStore.stepOutside api.env) store amid.writes

/-- `store.get`, which may fail. -/
def readAmid (store : ResourceStore) (planId : String) : Except PyError StoredResource :=
  match amid.readFailure with
  | some e => throw e
  | none => store.get "plan" planId api.tenantId

/-- `store.put`, which may fail. -/
def putAmid (args : PutArgs) (store : ResourceStore) :
    Except PyError (StoredResource × ResourceStore) :=
  match amid.writeFailure with
  | some e => throw e
  | none => store.put api.env args

/-- The end of `approve`. A `KeyError` of the read is caught. -/
def movePlanAmid (context : ApiContext) (approval : ApprovalRequest) (fields : Document)
    (g : Governed) : Except PyError Response × Governed :=
  match api.readAmid amid g.store approval.planId with
  | .error (.keyError _) => (.ok (.decision approval none), g)
  | .error e => (.error e, g)
  | .ok plan =>
      if stateIs plan.body "pending_approval" then
        let g := { g with store := api.storeAmid amid g.store }
        atomically g do
          let (updated, store) ← api.putAmid amid
            (api.planArgs context approval.planId plan.body fields (some plan.etag)) g.store
          pure (.decision approval (some updated), { g with store })
      else (.ok (.decision approval none), g)

/-- `approve`. -/
def approveAmid (context : ApiContext) (approvalId role : String) (data : Document)
    (g : Governed) : Except PyError Response × Governed :=
  match (do api.env.isoTime (← docItem data "now")) with
  | .error e => (.error e, g)
  | .ok now =>
      match g.workflow.approve approvalId context.actorId role now with
      | (.error e, workflow) => (.error e, { g with workflow })
      | (.ok approval, workflow) =>
          if approval.status = .approved then
            api.movePlanAmid amid context approval
              [("state", .str "approved"), ("approved_at", .time now)] { g with workflow }
          else (.ok (.decision approval none), { g with workflow })

/-- `approve_request`. -/
def approveRequestAmid (context : ApiContext) (approvalId : String) (data : Document)
    (x : ApiState) : Except PyError Response × ApiState :=
  match docItem data "role" with
  | .error e => (.error e, x)
  | .ok value =>
      if api.env.str value ∉ context.roles then
        (.error (.permissionError "approval role is not assigned to authenticated identity"), x)
      else
        api.auditedOperation context "approval.approve" data
          (api.approveAmid amid context approvalId (api.env.str value) data) x

/-! ## Without interference -/

theorem movePlanAmid_quiet (context : ApiContext) (approval : ApprovalRequest)
    (fields : Document) (g : Governed) :
    api.movePlanAmid .quiet context approval fields g =
      api.movePlan context approval fields g := by
  unfold movePlanAmid movePlan readAmid
  simp only [Interference.quiet]
  cases hget : g.store.get "plan" approval.planId api.tenantId with
  | ok plan => rfl
  | error e =>
    -- a lookup that fails is a `KeyError`
    unfold ResourceStore.get Dict.getItem at hget
    split at hget
    · cases hget
    · cases hget
      rfl

theorem approveAmid_quiet : api.approveAmid .quiet = api.approve := by
  funext context approvalId role data g
  unfold approveAmid approve
  cases docItem data "now" >>= api.env.isoTime with
  | error e => rfl
  | ok now =>
    dsimp only
    cases g.workflow.approve approvalId context.actorId role now with
    | mk outcome workflow =>
      cases outcome with
      | error e => rfl
      | ok approval => simp only [movePlanAmid_quiet]

theorem approveRequestAmid_quiet :
    api.approveRequestAmid .quiet = api.approveRequest := by
  funext context approvalId data x
  unfold approveRequestAmid approveRequest
  cases docItem data "role" with
  | error e => rfl
  | ok value => simp only [approveAmid_quiet]

end GovernanceApi

/-! ## Sequences of requests and writes -/

/-- A request with what happens to it, if it is a vote; or a write of a handler
without the lock. -/
inductive ApiEvent where
  | request (op : ApiOp) (amid : Interference)
  | outside (write : OutsidePut)

def ApiState.happen (api : GovernanceApi) (x : ApiState) : ApiEvent → ApiState
  | .request (.approveRequest context approvalId data) amid =>
      (api.approveRequestAmid amid context approvalId data x).2
  | .request op _ => x.step api op
  | .outside write =>
      { x with governed := { x.governed with
          store := x.governed.store.stepOutside api.env write } }

end ComputeWeaver.Api
