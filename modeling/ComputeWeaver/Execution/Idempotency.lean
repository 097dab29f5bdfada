/-
Execution.Idempotency — the in-memory `IdempotencyStore`
(`packages/execution/idempotency.py`, the branches taken without a Postgres
runtime), and any number of concurrent callers on it.

`execute_once` holds the store's lock while it starts and again while it
records the outcome; the operation itself runs between the two, unlocked.
So a call is two atomic steps, `start` and then `finish` or `fail`, and a
run interleaves the steps of any number of calls with calls of `cancel`,
which holds the lock throughout.

Two tables are keyed differently: `results` by (scope, idempotency key),
`actionStatus` by (scope, action). The status of an action is one entry
that every call for that action overwrites.
-/
import ComputeWeaver.Lib.Calls
import ComputeWeaver.Lib.Run
import ComputeWeaver.Lib.Value

namespace ComputeWeaver.Execution

open Lib

/-! ## The store -/

inductive ActionStatus where
  | started | failed | succeeded
  deriving DecidableEq, Repr

/-- The record `cancel` keeps and returns; its `status` is always
"cancelled". -/
structure Cancellation where
  actionId : String
  tenantId : String
  actorId : String
  reason : String
  deriving DecidableEq, Repr

/-- The arguments of one `execute_once` call, the operation apart. -/
structure ExecuteArgs where
  key : String
  intent : Document
  tenantId : Option String
  actionId : Option String

/-- `value or default` for an optional string: the empty string is false. -/
def pyOr (value : Option String) (default : String) : String :=
  match value with
  | some s => if s = "" then default else s
  | none => default

namespace ExecuteArgs

def scope (args : ExecuteArgs) : String := pyOr args.tenantId "memory"

def identity (args : ExecuteArgs) : String × String := (args.scope, args.key)

def actionIdentity (env : PyEnv) (args : ExecuteArgs) : String × String :=
  (args.scope, pyOr args.actionId (env.str (docGetD args.intent "action" (.str "unknown"))))

def digest (env : PyEnv) (args : ExecuteArgs) : String := env.digest (.dict args.intent)

end ExecuteArgs

/-- The store's tables; `ρ` is the type of the results. -/
structure IdempotencyStore (ρ : Type) where
  results : Dict (String × String) (String × ρ)
  actionStatus : Dict (String × String) ActionStatus
  cancellations : Dict (String × String) Cancellation

namespace IdempotencyStore

variable {ρ : Type} (env : PyEnv)

def empty : IdempotencyStore ρ := ⟨Dict.empty, Dict.empty, Dict.empty⟩

/-- The locked start of `execute_once`. `ok (some result)` returns a recorded
result, `ok none` goes on to run the operation. -/
def start (s : IdempotencyStore ρ) (args : ExecuteArgs) :
    Except PyError (Option ρ) × IdempotencyStore ρ :=
  if s.cancellations.contains (args.actionIdentity env) then
    (.error (.permissionError "action was cancelled before execution"), s)
  else match s.results.get? args.identity with
    | some (previousDigest, result) =>
        if previousDigest ≠ args.digest env then
          (.error (.valueError "idempotency key reused with different intent"), s)
        else (.ok (some result), s)
    | none =>
        if s.actionStatus.get? (args.actionIdentity env) = some .started then
          (.error (.runtimeError "matching action execution is already in progress"), s)
        else (.ok none,
          { s with actionStatus := s.actionStatus.set (args.actionIdentity env) .started })

/-- The locked end of `execute_once` after the operation returned. -/
def finish (s : IdempotencyStore ρ) (args : ExecuteArgs) (result : ρ) : IdempotencyStore ρ :=
  { s with
    results := s.results.set args.identity (args.digest env, result)
    actionStatus := s.actionStatus.set (args.actionIdentity env) .succeeded }

/-- The locked end of `execute_once` after the operation raised. -/
def fail (s : IdempotencyStore ρ) (args : ExecuteArgs) : IdempotencyStore ρ :=
  { s with actionStatus := s.actionStatus.set (args.actionIdentity env) .failed }

/-- `cancel`. -/
def cancel (s : IdempotencyStore ρ) (actionId tenantId actorId reason : String) :
    Except PyError Cancellation × IdempotencyStore ρ :=
  if actionId = "" ∨ tenantId = "" ∨ actorId = "" ∨ pyStrip reason = "" then
    (.error (.valueError "action cancellation requires action, tenant, actor and reason"), s)
  else
    let cancellation : Cancellation := ⟨actionId, tenantId, actorId, pyStrip reason⟩
    match s.actionStatus.get? (tenantId, actionId) with
    | some .started =>
        (.error (.valueError "action cannot be cancelled after status started"), s)
    | some .succeeded =>
        (.error (.valueError "action cannot be cancelled after status succeeded"), s)
    | _ =>
        match s.cancellations.get? (tenantId, actionId) with
        | some existing =>
            if existing ≠ cancellation then
              (.error (.valueError "action cancellation already exists with different intent"), s)
            else (.ok cancellation,
              { s with cancellations := s.cancellations.set (tenantId, actionId) cancellation })
        | none => (.ok cancellation,
            { s with cancellations := s.cancellations.set (tenantId, actionId) cancellation })

end IdempotencyStore

/-! ## Concurrent calls -/

/-- The store and the calls on it, which are numbered. -/
structure ExecutionState (ρ : Type) where
  store : IdempotencyStore ρ
  phase : Nat → CallPhase ρ

/-- One atomic step: of the call with a number, or a whole `cancel`. -/
inductive Move (ρ : Type) where
  | start (call : Nat)
  | finish (call : Nat) (result : ρ)
  | fail (call : Nat) (error : PyError)
  | cancel (actionId tenantId actorId reason : String)

namespace ExecutionState

variable {ρ : Type} (env : PyEnv) (args : Nat → ExecuteArgs)

/-- No call has begun on an empty store. -/
def init : ExecutionState ρ := ⟨IdempotencyStore.empty, fun _ => .idle⟩

/-- The phase a call is in after its locked start. -/
def phaseOf : Except PyError (Option ρ) → CallPhase ρ
  | .ok none => .running
  | .ok (some result) => .replayed result
  | .error e => .raised e

/-- Make a step. A step of a call that is not at that point of its code does
nothing. -/
def step (x : ExecutionState ρ) : Move ρ → ExecutionState ρ
  | .start i =>
      match x.phase i with
      | .idle =>
          let outcome := x.store.start env (args i)
          ⟨outcome.2, Function.update x.phase i (phaseOf outcome.1)⟩
      | _ => x
  | .finish i result =>
      match x.phase i with
      | .running =>
          ⟨x.store.finish env (args i) result,
            Function.update x.phase i (.completed result)⟩
      | _ => x
  | .fail i e =>
      match x.phase i with
      | .running => ⟨x.store.fail env (args i), Function.update x.phase i (.raised e)⟩
      | _ => x
  | .cancel actionId tenantId actorId reason =>
      { x with store := (x.store.cancel actionId tenantId actorId reason).2 }

end ExecutionState

end ComputeWeaver.Execution
