/-
Mpc.Repository — persisted controllers
(`packages/mpc/repository.py`, `MpcRepository`).

`cycle` holds no lock of its own. It loads the controller's state, runs the
controller on a private copy, puts the new state on condition that the
stored one is still the one it loaded, and puts the record of the cycle. Any
number of calls may be between any two of these steps, so a call is modelled
by the point it has reached (`CyclePhase`) and an interleaving is a list that
says which call moves next.

The store is the in-process one; each of its operations is one step.
-/
import ComputeWeaver.Api.Store
import ComputeWeaver.Mpc.Controller

namespace ComputeWeaver.Mpc

open Lib Workloads Scheduling Api

/-- A repository used for one controller. `asdict` gives the document of a
cycle record, which nothing reads back. -/
structure MpcRepository where
  env : PyEnv
  contentHash : ScheduleInput → String
  asdict : MpcCycle → Document
  controllerId : String
  tenantId : String

/-- The arguments of one `cycle` call, with the clock it will see. -/
structure RepositoryCall where
  request : ScheduleInput
  observed : ObservedState
  startedAt : DateTime
  timeoutSeconds : ℚ
  clock : Nat → ℚ
  idempotencyKey : String

/-- The call of the controller: planned progress is left at its default. -/
def RepositoryCall.cycleCall (call : RepositoryCall) : CycleCall where
  request := call.request
  observed := call.observed
  startedAt := call.startedAt
  timeoutSeconds := call.timeoutSeconds
  clock := call.clock

namespace MpcRepository

variable (repo : MpcRepository)

def key : String × String × String := (repo.tenantId, "mpc_controller_state", repo.controllerId)

def load (store : ResourceStore) : Except PyError StoredResource :=
  store.get "mpc_controller_state" repo.controllerId repo.tenantId

def createArgs (stabilityPenalty : ℚ) (idempotencyKey : String) : PutArgs where
  kind := "mpc_controller_state"
  resourceId := repo.controllerId
  tenantId := repo.tenantId
  body := MpcController.exportState repo.env { stabilityPenalty }
  idempotencyKey := "mpc-create:" ++ idempotencyKey

def create (store : ResourceStore) (stabilityPenalty : ℚ) (idempotencyKey : String) :
    Except PyError (StoredResource × ResourceStore) :=
  store.put repo.env (repo.createArgs stabilityPenalty idempotencyKey)

/-- The put of the new state, conditional on the etag that was loaded. -/
def stateArgs (call : RepositoryCall) (resource : StoredResource) (controller : MpcController) :
    PutArgs where
  kind := "mpc_controller_state"
  resourceId := repo.controllerId
  tenantId := repo.tenantId
  body := controller.exportState repo.env
  idempotencyKey := "mpc-state:" ++ call.idempotencyKey
  ifMatch := some resource.etag

def recordArgs (call : RepositoryCall) (cycle : MpcCycle) : PutArgs where
  kind := "mpc_cycle"
  resourceId := repo.controllerId ++ "-" ++ toString cycle.id
  tenantId := repo.tenantId
  body := docWith (repo.asdict cycle) "cycle_id" (.int cycle.id)
  idempotencyKey := "mpc-cycle:" ++ call.idempotencyKey

end MpcRepository

/-- How far a call has come. -/
inductive CyclePhase where
  | idle
  | missing
  | created
  | loaded (resource : StoredResource)
  | computed (resource : StoredResource) (cycle : MpcCycle) (controller : MpcController)
  | stored (cycle : MpcCycle)
  | returned (cycle : MpcCycle)
  | raised (error : PyError)

/-- The next step of a call. None of them raises after a change. -/
def MpcRepository.advance (repo : MpcRepository) (call : RepositoryCall) (store : ResourceStore) :
    CyclePhase → Except PyError (CyclePhase × ResourceStore)
  | .idle => match repo.load store with
      | .ok resource => pure (.loaded resource, store)
      | .error (.keyError _) => pure (.missing, store)
      | .error e => throw e
  | .missing => do
      let (_, store) ← repo.create store (1 / 100) ("implicit-" ++ repo.controllerId)
      pure (.created, store)
  | .created => do
      let resource ← repo.load store
      pure (.loaded resource, store)
  | .loaded resource => do
      let controller ← MpcController.fromState repo.env resource.body
      let (cycle, controller) ← controller.cycle repo.contentHash call.cycleCall
      pure (.computed resource cycle controller, store)
  | .computed resource cycle controller => do
      let (_, store) ← store.put repo.env (repo.stateArgs call resource controller)
      pure (.stored cycle, store)
  | .stored cycle => do
      let (_, store) ← store.put repo.env (repo.recordArgs call cycle)
      pure (.returned cycle, store)
  | .returned cycle => pure (.returned cycle, store)
  | .raised e => pure (.raised e, store)

structure RepositoryState where
  store : ResourceStore
  phase : Nat → CyclePhase

/-- The next step of call `i`. -/
def RepositoryState.step (repo : MpcRepository) (calls : Nat → RepositoryCall)
    (x : RepositoryState) (i : Nat) : RepositoryState :=
  match repo.advance (calls i) x.store (x.phase i) with
  | .ok (phase, store) => ⟨store, Function.update x.phase i phase⟩
  | .error e => ⟨x.store, Function.update x.phase i (.raised e)⟩

/-- No call has started. -/
def RepositoryState.start (store : ResourceStore) : RepositoryState := ⟨store, fun _ => .idle⟩

end ComputeWeaver.Mpc
