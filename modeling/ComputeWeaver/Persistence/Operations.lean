/-
Persistence.Operations — request idempotency for API
operations outside the resource store (`packages/persistence/operations.py`).

`OperationIdempotency.execute_once` has two backends.

* In memory the lock is held while the callback runs, so a call is one step:
  `executeMemory` threads the rest of the process state through the callback.
* On Postgres a call is a database block that claims the row of its key, the
  callback, and a second block that records the outcome. A block is atomic
  and locks the row. A run interleaves the blocks of any number of callers;
  a caller that crashes is one that makes no further step. The time `now()`
  of a block is an input, so a lease may be found expired at any block.
-/
import ComputeWeaver.Lib.Calls
import ComputeWeaver.Lib.Run
import ComputeWeaver.Lib.Value

namespace ComputeWeaver.Persistence

open Lib

/-- The arguments of one `execute_once` call, the callback apart. -/
structure OperationArgs where
  tenantId : String
  key : String
  operation : String
  intent : Document

namespace OperationArgs

def digest (env : PyEnv) (args : OperationArgs) : String := env.digest (.dict args.intent)

/-- The checks made before any backend is used. -/
def check (args : OperationArgs) : Except PyError Unit :=
  if args.tenantId = "" ∨ args.key.length < 8 ∨ args.operation = "" then
    throw (.valueError
      "tenant, operation and an idempotency key of at least 8 characters are required")
  else pure ()

end OperationArgs

/-! ## The in-memory backend -/

/-- Recorded results by (tenant, key), with operation and digest. -/
abbrev OperationMemory (ρ : Type) := Dict (String × String) (String × String × ρ)

/-- `execute_once` in memory, `_execute_memory` included. A callback that
raises leaves no record, but keeps what it did to the state `σ`. -/
def executeMemory {σ ρ : Type} (env : PyEnv) (args : OperationArgs)
    (callback : σ → Except PyError ρ × σ) (memory : OperationMemory ρ) (s : σ) :
    Except PyError ρ × OperationMemory ρ × σ :=
  match args.check with
  | .error e => (.error e, memory, s)
  | .ok () =>
    match memory.get? (args.tenantId, args.key) with
    | some (previousOperation, previousDigest, result) =>
        if previousOperation ≠ args.operation ∨ previousDigest ≠ args.digest env then
          (.error (.valueError "idempotency key reused with a different API operation"),
            memory, s)
        else (.ok result, memory, s)
    | none =>
        match callback s with
        | (.error e, s') => (.error e, memory, s')
        | (.ok result, s') =>
            (.ok result,
              memory.set (args.tenantId, args.key) (args.operation, args.digest env, result), s')

/-! ## The Postgres backend -/

inductive OperationStatus where
  | started | succeeded | failed
  deriving DecidableEq, Repr

/-- A row of `api_operations`, less its key. Times are microseconds. -/
structure OperationRow where
  operation : String
  intentHash : String
  status : OperationStatus
  response : Option Value
  error : Option String
  leaseExpiresAt : Int
  startedAt : Int
  completedAt : Option Int

/-- The table and the callers, which are numbered. -/
structure OperationState where
  table : Dict (String × String) OperationRow
  phase : Nat → CallPhase Value

/-- One database block of a caller, at a time. A callback that raised `error`
is recorded under `message`, the exception's class name and text. -/
inductive OperationMove where
  | begin (caller : Nat) (now : Int)
  | succeed (caller : Nat) (now : Int) (result : Value)
  | fail (caller : Nat) (now : Int) (error : PyError) (message : String)

/-- What the backend is configured with. `jsonSafe` is the round trip
`json.loads(json.dumps(result, default=str))` of a recorded response. -/
structure OperationBackend where
  env : PyEnv
  jsonSafe : Value → Value
  lease : Int
  lease_pos : 0 < lease

namespace OperationBackend

variable (backend : OperationBackend)

/-- `tenant_connection` rejects a tenant id that Postgres cannot store. -/
def checkTenant (args : OperationArgs) : Except PyError Unit :=
  if args.tenantId = "" ∨ '\x00' ∈ args.tenantId.toList then
    throw (.valueError "invalid tenant ID")
  else pure ()

/-- The first block: return the recorded response, refuse, or claim the row.
`ok none` goes on to run the callback. -/
def claim (table : Dict (String × String) OperationRow) (args : OperationArgs) (now : Int) :
    Except PyError (Option Value) × Dict (String × String) OperationRow :=
  match args.check, checkTenant args with
  | .error e, _ => (.error e, table)
  | _, .error e => (.error e, table)
  | .ok (), .ok () =>
    match table.get? (args.tenantId, args.key) with
    | some row =>
        if row.operation ≠ args.operation ∨ row.intentHash ≠ args.digest backend.env then
          (.error (.valueError "idempotency key reused with a different API operation"), table)
        else if row.status = .succeeded then (.ok (some (row.response.getD .none)), table)
        else if row.status = .started ∧ now < row.leaseExpiresAt then
          (.error (.runtimeError "matching API operation is already in progress"), table)
        else (.ok none, table.set (args.tenantId, args.key)
          { row with
            status := .started, error := none, response := none
            leaseExpiresAt := now + backend.lease, startedAt := now, completedAt := none })
    | none => (.ok none, table.set (args.tenantId, args.key)
        { operation := args.operation, intentHash := args.digest backend.env, status := .started
          response := none, error := none, leaseExpiresAt := now + backend.lease
          startedAt := now, completedAt := none })

/-- The block after the callback raised: `UPDATE … SET status = 'failed' …
WHERE tenant_id = … AND idempotency_key = … AND intent_hash = …`. -/
def recordFailure (table : Dict (String × String) OperationRow) (args : OperationArgs)
    (now : Int) (message : String) : Dict (String × String) OperationRow :=
  match table.get? (args.tenantId, args.key) with
  | some row =>
      if row.intentHash = args.digest backend.env then
        table.set (args.tenantId, args.key)
          { row with
            status := .failed, error := some (String.ofList (message.toList.take 4000))
            completedAt := some now }
      else table
  | none => table

/-- The block after the callback returned: the same `UPDATE` with `AND status
= 'started'`, which raises when it matches no row. -/
def recordSuccess (table : Dict (String × String) OperationRow) (args : OperationArgs)
    (now : Int) (result : Value) : Except PyError Unit × Dict (String × String) OperationRow :=
  match table.get? (args.tenantId, args.key) with
  | some row =>
      if row.intentHash = args.digest backend.env ∧ row.status = .started then
        (.ok (), table.set (args.tenantId, args.key)
          { row with
            status := .succeeded, response := some (backend.jsonSafe result)
            completedAt := some now })
      else (.error (.runtimeError "API operation lease was lost before completion"), table)
  | none => (.error (.runtimeError "API operation lease was lost before completion"), table)

/-- The phase a caller is in after its first block. -/
def phaseOf : Except PyError (Option Value) → CallPhase Value
  | .ok none => .running
  | .ok (some response) => .replayed response
  | .error e => .raised e

/-- Make a step. A block of a caller that is not at that point of its code
does nothing. -/
def step (args : Nat → OperationArgs) (x : OperationState) : OperationMove → OperationState
  | .begin i now =>
      match x.phase i with
      | .idle =>
          let outcome := backend.claim x.table (args i) now
          ⟨outcome.2, Function.update x.phase i (phaseOf outcome.1)⟩
      | _ => x
  | .succeed i now result =>
      match x.phase i with
      | .running =>
          match backend.recordSuccess x.table (args i) now result with
          | (.ok (), table) => ⟨table, Function.update x.phase i (.completed result)⟩
          | (.error e, table) => ⟨table, Function.update x.phase i (.raised e)⟩
      | _ => x
  | .fail i now error message =>
      match x.phase i with
      | .running =>
          ⟨backend.recordFailure x.table (args i) now message,
            Function.update x.phase i (.raised error)⟩
      | _ => x

end OperationBackend

/-- No caller has begun on an empty table. -/
def OperationState.init : OperationState := ⟨Dict.empty, fun _ => .idle⟩

end ComputeWeaver.Persistence
