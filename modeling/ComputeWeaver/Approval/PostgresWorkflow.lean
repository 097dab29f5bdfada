/-
Approval.PostgresWorkflow — the approval workflow on Postgres
(`packages/approval/workflow.py`, the branches taken with a runtime), one
transaction at a time.

The rows of `approvals` belong to a tenant, their votes are in a table of their
own, and a request is put together from both when it is read. A block of
statements is a function of the tables to its outcome and the tables it leaves;
`tenantConnection` commits or rolls back. So the status that `approve` writes
before it raises "approval expired" is written here as well, and lost with the
transaction.

The columns `version` and `updated_at` are written and never read.
-/
import ComputeWeaver.Approval.Workflow
import ComputeWeaver.Persistence.Postgres

namespace ComputeWeaver.Approval

open Lib Risk Persistence

/-! ## Tables -/

/-- A row of `approvals`, less its key. -/
structure ApprovalRow where
  planId : String
  risk : RiskLevel
  requestedBy : String
  expiresAt : Int
  requiredRoles : Finset String
  requiredCount : Int
  status : ApprovalStatus

inductive Decision where
  | approved | rejected
  deriving DecidableEq, Repr

/-- A row of `approval_votes`, less its key. -/
structure VoteRow where
  role : String
  decision : Decision
  decidedAt : Int

/-- `approvals` by tenant and id, `approval_votes` by tenant, approval and
actor. -/
structure ApprovalTables where
  approvals : Dict (String × String) ApprovalRow
  votes : Dict (String × String × String) VoteRow

namespace ApprovalTables

def empty : ApprovalTables := ⟨.empty, .empty⟩

def setRow (tables : ApprovalTables) (tenantId requestId : String) (row : ApprovalRow) :
    ApprovalTables :=
  { tables with approvals := tables.approvals.set (tenantId, requestId) row }

def addVote (tables : ApprovalTables) (tenantId requestId actorId : String) (vote : VoteRow) :
    ApprovalTables :=
  { tables with votes := tables.votes.set (tenantId, requestId, actorId) vote }

/-- The votes of a request, in the order they were inserted. -/
def voteRows (tables : ApprovalTables) (tenantId requestId : String) :
    List ((String × String × String) × VoteRow) :=
  tables.votes.entries.filter fun vote => vote.1.1 = tenantId && vote.1.2.1 = requestId

/-- `decision = 'approved'`. -/
def approvedRows (tables : ApprovalTables) (tenantId requestId : String) :
    List ((String × String × String) × VoteRow) :=
  (tables.voteRows tenantId requestId).filter fun vote => vote.2.decision = .approved

/-- `ORDER BY decided_at, actor_id`. -/
def voteOrder (session : Session) (a b : (String × String × String) × VoteRow) : Bool :=
  decide (a.2.decidedAt < b.2.decidedAt) ||
    decide (a.2.decidedAt = b.2.decidedAt) && session.collate a.1.2.2 b.1.2.2

/-- The approvals of a request as they are read. -/
def approvalsOf (session : Session) (tables : ApprovalTables) (tenantId requestId : String) :
    List (String × String) :=
  (pySorted (voteOrder session) (tables.approvedRows tenantId requestId)).map fun vote =>
    (vote.1.2.2, vote.2.role)

def requestOf (session : Session) (tables : ApprovalTables) (tenantId requestId : String)
    (row : ApprovalRow) : ApprovalRequest where
  id := requestId
  planId := row.planId
  tenantId := tenantId
  risk := row.risk
  requestedBy := row.requestedBy
  expiresAt := .aware row.expiresAt
  requiredRoles := row.requiredRoles
  requiredCount := row.requiredCount
  approvals := tables.approvalsOf session tenantId requestId
  status := row.status

/-! ## Operations -/

/-- The roles of a `text[]` parameter. -/
def checkRoles (roles : Finset String) : Except PyError Unit :=
  if ∃ role ∈ roles, hasNul role then throw (.databaseError "DataError") else pure ()

/-- `same_request`. -/
def sameRequest (existing : ApprovalRow) (request : ApprovalRequest) : Bool :=
  existing.planId = request.planId && existing.risk = request.risk &&
    existing.requestedBy = request.requestedBy && .aware existing.expiresAt = request.expiresAt &&
    existing.requiredRoles = request.requiredRoles && existing.requiredCount = request.requiredCount

/-- The row that `create` inserts. -/
def newRow (session : Session) (request : ApprovalRequest) : ApprovalRow where
  planId := request.planId
  risk := request.risk
  requestedBy := request.requestedBy
  expiresAt := session.instant request.expiresAt
  requiredRoles := request.requiredRoles
  requiredCount := request.requiredCount
  status := request.status

def createBlock (session : Session) (request : ApprovalRequest) (tables : ApprovalTables) :
    Except PyError Unit × ApprovalTables :=
  checked (checkText request.id) tables <|
    match tables.approvals.get? (request.tenantId, request.id) with
    | some existing =>
        if sameRequest existing request then (.ok (), tables)
        else (.error (.valueError "approval ID already exists with different requirements"), tables)
    | none =>
        checked (do
          checkText request.planId
          checkRoles request.requiredRoles
          checkInteger request.requiredCount) tables
          (.ok (), tables.setRow request.tenantId request.id (newRow session request))

/-- `create`. -/
def create (session : Session) (tables : ApprovalTables) (request : ApprovalRequest) :
    Except PyError Unit × ApprovalTables :=
  if request.requiredCount < ApprovalWorkflow.minimum request.risk then
    (.error (.valueError "approval count below risk minimum"), tables)
  else if 0 < request.requiredCount ∧ request.requiredRoles = ∅ then
    (.error (.valueError "approval roles are required"), tables)
  else tenantConnection tables request.tenantId request.requestedBy (createBlock session request)

/-- The check of the calls that take the tenant as an argument. -/
def requireTenant (tenantId : String) : Except PyError Unit :=
  if tenantId = "" then throw (.valueError "tenant_id is required for persistent approvals")
  else pure ()

/-- `get`. -/
def get (session : Session) (tables : ApprovalTables) (requestId tenantId : String) :
    Except PyError ApprovalRequest := do
  requireTenant tenantId
  checkTenant tenantId
  checkText requestId
  match tables.approvals.get? (tenantId, requestId) with
  | none => throw (.keyError requestId)
  | some row => pure (tables.requestOf session tenantId requestId row)

/-- A call that returns `self.get(...)` after its transaction, unless the block has
returned a request. -/
def thenGet (session : Session) (requestId tenantId : String) :
    Except PyError (Option ApprovalRequest) × ApprovalTables →
      Except PyError ApprovalRequest × ApprovalTables
  | (.error e, tables) => (.error e, tables)
  | (.ok (some request), tables) => (.ok request, tables)
  | (.ok none, tables) => (tables.get session requestId tenantId, tables)

/-- The tables after a vote, and the request's status. -/
def voted (session : Session) (tables : ApprovalTables) (tenantId requestId actorId role : String)
    (now : DateTime) (row : ApprovalRow) : ApprovalTables :=
  let tables := tables.addVote tenantId requestId actorId ⟨role, .approved, session.instant now⟩
  let status : ApprovalStatus :=
    if row.requiredCount ≤ (tables.approvedRows tenantId requestId).length then .approved
    else .pending
  tables.setRow tenantId requestId { row with status }

def approveBlock (session : Session) (requestId actorId role : String) (now : DateTime)
    (tenantId : String) (tables : ApprovalTables) :
    Except PyError (Option ApprovalRequest) × ApprovalTables :=
  checked (checkText requestId) tables <|
    match tables.approvals.get? (tenantId, requestId) with
    | none => (.error (.keyError requestId), tables)
    | some row =>
      if row.status ≠ .pending then (.error (.valueError "approval is not pending"), tables)
      else match now.ge (.aware row.expiresAt) with
        | .error e => (.error e, tables)
        | .ok true =>
            (.error (.valueError "approval expired"),
              tables.setRow tenantId requestId { row with status := .expired })
        | .ok false =>
          if actorId = row.requestedBy then
            (.error (.permissionError "requester cannot approve own high-risk action"), tables)
          else if role ∉ row.requiredRoles then
            (.error (.permissionError "actor role cannot approve request"), tables)
          else if (tables.votes.get? (tenantId, requestId, actorId)).isSome then
            (.ok (some (tables.requestOf session tenantId requestId row)), tables)
          else (.ok none, tables.voted session tenantId requestId actorId role now row)

/-- `approve`. -/
def approve (session : Session) (tables : ApprovalTables) (requestId actorId role : String)
    (now : DateTime) (tenantId : String) : Except PyError ApprovalRequest × ApprovalTables :=
  checked (requireTenant tenantId) tables <|
    thenGet session requestId tenantId <|
      tenantConnection tables tenantId actorId
        (approveBlock session requestId actorId role now tenantId)

def rejectBlock (requestId tenantId : String) (tables : ApprovalTables) :
    Except PyError (Option ApprovalRequest) × ApprovalTables :=
  checked (checkText requestId) tables <|
    match tables.approvals.get? (tenantId, requestId) with
    | none => (.error (.keyError requestId), tables)
    | some row =>
      if row.status = .pending then
        (.ok none, tables.setRow tenantId requestId { row with status := .rejected })
      else if row.status ≠ .rejected then
        (.error (.valueError "approval is not pending"), tables)
      else (.ok none, tables)

/-- `reject`. -/
def reject (session : Session) (tables : ApprovalTables) (requestId tenantId : String) :
    Except PyError ApprovalRequest × ApprovalTables :=
  checked (requireTenant tenantId) tables <|
    thenGet session requestId tenantId <|
      tenantConnection tables tenantId "system" (rejectBlock requestId tenantId)

def modifyBlock (session : Session) (requestId actorId : String) (expiresAt : DateTime)
    (requiredRoles : Finset String) (requiredCount : Int) (tenantId : String)
    (tables : ApprovalTables) : Except PyError (Option ApprovalRequest) × ApprovalTables :=
  checked (checkText requestId) tables <|
    match tables.approvals.get? (tenantId, requestId) with
    | none => (.error (.keyError requestId), tables)
    | some row =>
      checked (do
        ApprovalWorkflow.validateModification row.status row.requestedBy actorId row.risk expiresAt
          requiredRoles requiredCount (tables.voteRows tenantId requestId).length
        checkRoles requiredRoles
        checkInteger requiredCount) tables
        (.ok none, tables.setRow tenantId requestId
          { row with expiresAt := session.instant expiresAt, requiredRoles, requiredCount })

/-- `modify`. -/
def modify (session : Session) (tables : ApprovalTables) (requestId actorId : String)
    (expiresAt : DateTime) (requiredRoles : Finset String) (requiredCount : Int)
    (tenantId : String) : Except PyError ApprovalRequest × ApprovalTables :=
  checked (requireTenant tenantId) tables <|
    thenGet session requestId tenantId <|
      tenantConnection tables tenantId actorId
        (modifyBlock session requestId actorId expiresAt requiredRoles requiredCount tenantId)

/-- `list`. -/
def list (session : Session) (tables : ApprovalTables) (tenantId : String) :
    Except PyError (List ApprovalRequest) := do
  checkTenant tenantId
  let ids := (tables.approvals.entries.filter fun row => row.1.1 = tenantId).map fun row => row.1.2
  (pySorted session.collate ids).mapM fun id => tables.get session id tenantId

end ApprovalTables

/-! ## Calls on either backend -/

inductive WorkflowCall where
  | create (request : ApprovalRequest)
  | approve (requestId actorId role : String) (now : DateTime) (tenantId : String)
  | reject (requestId tenantId : String)
  | modify (requestId actorId : String) (expiresAt : DateTime) (requiredRoles : Finset String)
      (requiredCount : Int) (tenantId : String)
  | get (requestId tenantId : String)
  | list (tenantId : String)

/-- The requests that a call returns. -/
abbrev WorkflowOutcome := Except PyError (List ApprovalRequest)

/-- Without a runtime the tenant of a call is ignored, but for `list`. -/
def ApprovalWorkflow.serve (w : ApprovalWorkflow) :
    WorkflowCall → WorkflowOutcome × ApprovalWorkflow
  | .create request => (w.create request).map (Except.map fun _ => []) id
  | .approve requestId actorId role now _ =>
      (w.approve requestId actorId role now).map (Except.map fun request => [request]) id
  | .reject requestId _ => (w.reject requestId).map (Except.map fun request => [request]) id
  | .modify requestId actorId expiresAt requiredRoles requiredCount _ =>
      (w.modify requestId actorId expiresAt requiredRoles requiredCount).map
        (Except.map fun request => [request]) id
  | .get requestId _ => ((w.get requestId).map fun request => [request], w)
  | .list tenantId => (.ok (w.list tenantId), w)

def ApprovalTables.serve (session : Session) (tables : ApprovalTables) :
    WorkflowCall → WorkflowOutcome × ApprovalTables
  | .create request => (tables.create session request).map (Except.map fun _ => []) id
  | .approve requestId actorId role now tenantId =>
      (tables.approve session requestId actorId role now tenantId).map
        (Except.map fun request => [request]) id
  | .reject requestId tenantId =>
      (tables.reject session requestId tenantId).map (Except.map fun request => [request]) id
  | .modify requestId actorId expiresAt requiredRoles requiredCount tenantId =>
      (tables.modify session requestId actorId expiresAt requiredRoles requiredCount tenantId).map
        (Except.map fun request => [request]) id
  | .get requestId tenantId =>
      ((tables.get session requestId tenantId).map fun request => [request], tables)
  | .list tenantId => (tables.list session tenantId, tables)

def ApprovalWorkflow.after (calls : List WorkflowCall) : ApprovalWorkflow :=
  run (fun w call => (w.serve call).2) .empty calls

def ApprovalTables.after (session : Session) (calls : List WorkflowCall) : ApprovalTables :=
  run (fun tables call => (tables.serve session call).2) .empty calls

/-- A request for two votes. -/
def sampleRequest : ApprovalRequest where
  id := "approval-1"
  planId := "plan-1"
  tenantId := "tenant-one"
  risk := .L2
  requestedBy := "alice"
  expiresAt := .aware 100
  requiredRoles := {"operator"}
  requiredCount := 2

end ComputeWeaver.Approval
