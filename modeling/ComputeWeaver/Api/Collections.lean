/-
Api.Collections — writes to the generic collections
(`apps/api/main.py`: `mutate` and `register_collection.create`).

`mutate` puts the body and then appends a success record to the audit log. The
store answers a repeated idempotency key with the resource it recorded and
writes nothing; `mutate` does not see the difference. `create` looks at the
stored tariff first and refuses to write over a published one.
-/
import ComputeWeaver.Api.Governance
import ComputeWeaver.Observability.Audit

namespace ComputeWeaver.Api

open Lib Observability

/-- `body.get("status") == "published"`. -/
def isPublished (body : Document) : Bool := (docGetD body "status" .none).isStr "published"

section

variable (env : PyEnv)

/-- What `mutate` does to the store. -/
def writeBody (args : PutArgs) (store : ResourceStore) :
    Except PyError (StoredResource × ResourceStore) := do
  rejectInlineSecrets env env.recursionLimit "body" (.dict args.body)
  store.put env args

/-- `create`. -/
def createResource (args : PutArgs) (store : ResourceStore) :
    Except PyError (StoredResource × ResourceStore) :=
  if args.kind = "tariff" ∧ (store.items.get? args.key).any fun current =>
      isPublished current.body then
    throw (.valueError "published tariff versions are immutable; create a new tariff ID")
  else writeBody env args store

end

/-! ## With the audit log -/

structure CollectionState where
  store : ResourceStore
  audit : AuditLog

/-- A call of `mutate`; the tenant and the key are in `args`, and `now` is the
time at which the record is made. -/
structure CollectionWrite where
  args : PutArgs
  actorId : String
  correlationId : String
  now : WallClock

def CollectionWrite.record (call : CollectionWrite) : AppendCall where
  actorId := pyStr call.actorId
  tenantId := pyStr call.args.tenantId
  action := pyStr (call.args.kind ++ ".write")
  resource := pyStr call.args.resourceId
  outcome := pyStr "success"
  correlationId := pyStr call.correlationId
  now := call.now

def mutate (env : PyEnv) (sha256 : String → String) (call : CollectionWrite)
    (x : CollectionState) : Except PyError StoredResource × CollectionState :=
  match writeBody env call.args x.store with
  | .ok (resource, store) => (.ok resource, ⟨store, (x.audit.append sha256 call.record).2⟩)
  | .error e => (.error e, x)

/-- What one call leaves behind. -/
def CollectionState.step (env : PyEnv) (sha256 : String → String) (x : CollectionState)
    (call : CollectionWrite) : CollectionState :=
  (mutate env sha256 call x).2

end ComputeWeaver.Api
