/-
Observability.Audit — the audit log in memory and its integrity
report (`packages/observability/audit.py`, `apps/api/main.py`).

Every record has the hash of the record before it in the log, whatever the
tenant, and the SHA-256 of its own fields as canonical JSON. `verify` walks the
whole log, `verify_tenant` the records of one tenant; both start at "GENESIS".
Texts are Python strings, code point by code point, since the canonical JSON
does not keep all of them apart. `sha256` is `hashlib.sha256(...).hexdigest()`
of a text; the readings of `utc_now()` are part of a call.
-/
import ComputeWeaver.Lib.HashChain
import ComputeWeaver.Lib.IsoFormat
import ComputeWeaver.Lib.JsonText
import ComputeWeaver.Lib.Run

namespace ComputeWeaver.Observability

open Lib

/-! ## Records -/

structure AuditRecord where
  timestamp : Timestamp
  actorId : PyStr
  tenantId : PyStr
  action : PyStr
  resource : PyStr
  outcome : PyStr
  correlationId : PyStr
  previousHash : PyStr
  recordHash : PyStr
  deriving DecidableEq

/-- What is hashed: every field but the hash itself. -/
def AuditRecord.source (record : AuditRecord) : String :=
  jsonDumpsSorted
    [(pyStr "timestamp", pyStr record.timestamp.isoformat),
      (pyStr "actor_id", record.actorId),
      (pyStr "tenant_id", record.tenantId),
      (pyStr "action", record.action),
      (pyStr "resource", record.resource),
      (pyStr "outcome", record.outcome),
      (pyStr "correlation_id", record.correlationId),
      (pyStr "previous_hash", record.previousHash)]

/-- What the first record points to. -/
def genesis : PyStr := pyStr "GENESIS"

/-- A call of `append`, with the time at which it is made. -/
structure AppendCall where
  actorId : PyStr
  tenantId : PyStr
  action : PyStr
  resource : PyStr
  outcome : PyStr
  correlationId : PyStr
  now : WallClock
  deriving DecidableEq

section

variable (sha256 : String → String)

def AuditRecord.digest (record : AuditRecord) : PyStr := pyStr (sha256 record.source)

def AuditRecord.sealed (record : AuditRecord) : AuditRecord :=
  { record with recordHash := record.digest sha256 }

/-- The record that `append` makes after a record with hash `previous`. -/
def AppendCall.record (call : AppendCall) (previous : PyStr) : AuditRecord :=
  AuditRecord.sealed sha256
    { timestamp := call.now.utc
      actorId := call.actorId
      tenantId := call.tenantId
      action := call.action
      resource := call.resource
      outcome := call.outcome
      correlationId := call.correlationId
      previousHash := previous
      recordHash := [] }

/-- The links of a record, as `verify` and `verify_tenant` read them. -/
def auditLinks : HashLinks AuditRecord PyStr where
  previous := AuditRecord.previousHash
  hash := AuditRecord.recordHash
  digest := AuditRecord.digest sha256

/-! ## The log -/

/-- `AuditLog` without a database. -/
structure AuditLog where
  records : List AuditRecord

namespace AuditLog

def empty : AuditLog := ⟨[]⟩

def append (log : AuditLog) (call : AppendCall) : AuditRecord × AuditLog :=
  let previous := (auditLinks sha256).headFrom genesis log.records
  let record := call.record sha256 previous
  (record, ⟨log.records ++ [record]⟩)

def verify (log : AuditLog) : Bool := (auditLinks sha256).verifyFrom genesis log.records

/-- `records(tenant_id)`. -/
def tenantRecords (log : AuditLog) (tenantId : PyStr) : List AuditRecord :=
  log.records.filter fun record => decide (record.tenantId = tenantId)

def verifyTenant (log : AuditLog) (tenantId : PyStr) : Bool :=
  (auditLinks sha256).verifyFrom genesis (log.tenantRecords tenantId)

def after (calls : List AppendCall) : AuditLog :=
  run (fun log call => (log.append sha256 call).2) empty calls

end AuditLog

/-! ## `/v1/audit/integrity` -/

structure IntegrityReport where
  valid : Bool
  recordCount : Nat
  head : PyStr
  deriving DecidableEq

def auditIntegrity (log : AuditLog) (tenantId : PyStr) (roles : Finset String) :
    Except PyError IntegrityReport :=
  if "admin" ∉ roles ∧ "auditor" ∉ roles then
    throw (.permissionError "audit integrity requires auditor role")
  else
    pure
      { valid := log.verifyTenant sha256 tenantId
        recordCount := (log.tenantRecords tenantId).length
        head := (auditLinks sha256).headFrom genesis (log.tenantRecords tenantId) }

end

end ComputeWeaver.Observability
