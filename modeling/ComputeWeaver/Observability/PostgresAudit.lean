/-
Observability.PostgresAudit — the audit log in Postgres under any
number of concurrent appends at READ COMMITTED
(`packages/observability/audit.py`, `migrations/001_initial.sql`).

An append is one transaction: it takes the advisory lock of its tenant, reads
the hash of the tenant's last record, and inserts its own. The number of a
record is taken from the sequence when the row is made and is not given back if
the transaction fails. The lock is on the hash of the tenant id (`lockKey`, for
`hashtextextended`), so two tenants may share one. An `INSERT` waits for
whoever has an uncommitted row with its `record_hash`, and fails if one is
committed.

Phases and aborts are as in `ComputeWeaver.Api.PostgresTransactions`. A
`timestamptz` column gives a time back as the same time in UTC.
-/
import ComputeWeaver.Lib.Locks
import ComputeWeaver.Observability.Audit

namespace ComputeWeaver.Observability

open Lib

/-! ## Texts -/

/-- A text parameter of a statement. -/
def checkStr (s : PyStr) : Except PyError Unit :=
  if encodable s = false then throw (.databaseError "UnicodeEncodeError")
  else if codePoint 0 ∈ s then throw (.databaseError "DataError")
  else pure ()

/-- What `tenant_connection` does before its block. -/
def openTenant (tenantId actorId : PyStr) : Except PyError Unit := do
  if tenantId = [] ∨ codePoint 0 ∈ tenantId then throw (.valueError "invalid tenant ID")
  checkStr tenantId
  checkStr actorId

/-! ## Rows -/

/-- A row of `audit_records`. -/
structure AuditRow where
  sequence : Nat
  record : AuditRecord

abbrev AuditTable : Type := List AuditRow

namespace AuditTable

/-- `WHERE tenant_id = …`. -/
def tenantRows (rows : AuditTable) (tenantId : PyStr) : AuditTable :=
  rows.filter fun row => decide (row.record.tenantId = tenantId)

/-- `SELECT … WHERE tenant_id = … ORDER BY sequence`. -/
def tenantRecords (rows : AuditTable) (tenantId : PyStr) : List AuditRecord :=
  (pySorted (fun a b => decide (a.sequence ≤ b.sequence)) (rows.tenantRows tenantId)).map
    AuditRow.record

/-- The hash of the last record, or "GENESIS". -/
def previous (sha256 : String → String) (rows : AuditTable) (tenantId : PyStr) : PyStr :=
  (auditLinks sha256).headFrom genesis (rows.tenantRecords tenantId)

/-- `verify_tenant`. -/
def verifyTenant (sha256 : String → String) (rows : AuditTable) (tenantId : PyStr) :
    Except PyError Bool := do
  openTenant tenantId (pyStr "system")
  return (auditLinks sha256).verifyFrom genesis (rows.tenantRecords tenantId)

end AuditTable

/-! ## Transactions -/

inductive AuditPhase where
  | idle
  | begun
  /-- it has the advisory lock -/
  | locked
  /-- it has read the last hash -/
  | read (previous : PyStr)
  /-- its row has a number -/
  | numbered (row : AuditRow)
  | inserted (row : AuditRow)
  | ended (reply : Except PyError AuditRecord)

structure AuditTx where
  /-- what is committed -/
  rows : AuditTable
  nextSequence : Nat
  advisoryLocks : Locks Int
  hashLocks : Locks PyStr
  phase : Nat → AuditPhase

inductive AuditMove where
  | advance (call : Nat)
  | abort (call : Nat) (error : PyError)

namespace AuditTx

def init : AuditTx := ⟨[], 1, .none, .none, fun _ => .idle⟩

def goto (x : AuditTx) (i : Nat) (phase : AuditPhase) : AuditTx :=
  { x with phase := Function.update x.phase i phase }

/-- The transaction ends without having written anything. -/
def finish (x : AuditTx) (i : Nat) (reply : Except PyError AuditRecord) : AuditTx :=
  { x with
    advisoryLocks := x.advisoryLocks.release i
    hashLocks := x.hashLocks.release i
    phase := Function.update x.phase i (.ended reply) }

/-- `COMMIT`. -/
def commit (x : AuditTx) (i : Nat) (row : AuditRow) : AuditTx :=
  { x.finish i (.ok row.record) with rows := x.rows ++ [row] }

/-- Go on if a check passes. -/
def checked (x : AuditTx) (i : Nat) (check : Except PyError Unit) (next : AuditTx) : AuditTx :=
  match check with
  | .error e => x.finish i (.error e)
  | .ok () => next

variable (sha256 : String → String) (lockKey : PyStr → Int) (calls : Nat → AppendCall)

/-- The next step of `append` number `i`. -/
def advance (x : AuditTx) (i : Nat) (call : AppendCall) : AuditTx :=
  match x.phase i with
  | .idle => x.checked i (openTenant call.tenantId call.actorId) (x.goto i .begun)
  | .begun =>
      if x.advisoryLocks.available (lockKey call.tenantId) i then
        { x.goto i .locked with
          advisoryLocks := x.advisoryLocks.acquire (lockKey call.tenantId) i }
      else x
  | .locked => x.goto i (.read (x.rows.previous sha256 call.tenantId))
  | .read previous =>
      x.checked i (do
        checkStr call.action
        checkStr call.resource
        checkStr call.outcome
        checkStr call.correlationId)
        { x.goto i (.numbered ⟨x.nextSequence, call.record sha256 previous⟩) with
          nextSequence := x.nextSequence + 1 }
  | .numbered row =>
      if x.hashLocks.available row.record.recordHash i then
        if x.rows.any fun other => decide (other.record.recordHash = row.record.recordHash) then
          x.finish i (.error (.databaseError "UniqueViolation"))
        else
          { x.goto i (.inserted row) with
            hashLocks := x.hashLocks.acquire row.record.recordHash i }
      else x
  | .inserted row => x.commit i row
  | .ended _ => x

/-- The transaction of call `i` fails, if it is open. -/
def abort (x : AuditTx) (i : Nat) (error : PyError) : AuditTx :=
  match x.phase i with
  | .idle => x
  | .ended _ => x
  | _ => x.finish i (.error error)

def step (x : AuditTx) : AuditMove → AuditTx
  | .advance i => x.advance sha256 lockKey i (calls i)
  | .abort i error => x.abort i error

def after (moves : List AuditMove) : AuditTx := run (step sha256 lockKey calls) init moves

end AuditTx

end ComputeWeaver.Observability
