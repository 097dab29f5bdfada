/-
Mpc.Persisted — a persisted controller, call after call
(`packages/mpc/repository.py`, `MpcRepository.cycle`).

One call at a time: the state is read from the store and the controller
rebuilt from it, the cycle is run on the rebuilt controller, and the new state
and the record of the cycle are put. A call that raises leaves what it has
stored so far.

The store keeps the state in either form (`BodyForm`): the objects, or JSON.
The clock an optimization sees is part of the call, so that the optimizer is
the same function for the persisted controller and for one that lives on.
-/
import ComputeWeaver.Api.StoredBodies
import ComputeWeaver.Lib.Run
import ComputeWeaver.Mpc.Repository

namespace ComputeWeaver.Mpc

open Lib Api

namespace MpcRepository

variable (form : BodyForm) (repo : MpcRepository)

/-- The stored state, which is created if there is none. -/
def loadOrCreate (store : ResourceStore) : Except PyError StoredResource × ResourceStore :=
  match repo.load store with
  | .ok resource => (.ok resource, store)
  | .error (.keyError _) =>
      match store.putAs form repo.env
          (repo.createArgs (1 / 100) ("implicit-" ++ repo.controllerId)) with
      | .ok (_, store) => (repo.load store, store)
      | .error e => (.error e, store)
  | .error e => (.error e, store)

/-- The two puts at the end of a call. -/
def save (store : ResourceStore) (call : RepositoryCall) (resource : StoredResource)
    (controller : MpcController) (cycle : MpcCycle) : Except PyError MpcCycle × ResourceStore :=
  match store.putAs form repo.env (repo.stateArgs call resource controller) with
  | .error e => (.error e, store)
  | .ok (_, store) =>
      match store.putAs form repo.env (repo.recordArgs call cycle) with
      | .error e => (.error e, store)
      | .ok (_, store) => (.ok cycle, store)

/-- `cycle`: what a call returns or raises, and the store it leaves. -/
def cycle (store : ResourceStore) (call : RepositoryCall) :
    Except PyError MpcCycle × ResourceStore :=
  match repo.loadOrCreate form store with
  | (.error e, store) => (.error e, store)
  | (.ok resource, store) =>
      match MpcController.fromState repo.env resource.body >>= fun controller =>
          controller.cycle repo.contentHash call.cycleCall with
      | .error e => (.error e, store)
      | .ok (cycle, controller) => repo.save form store call resource controller cycle

end MpcRepository

def MpcController.answer (contentHash : Scheduling.ScheduleInput → String)
    (controller : MpcController) (call : CycleCall) : Except PyError MpcCycle × MpcController :=
  match controller.cycle contentHash call with
  | .ok (cycle, controller') => (.ok cycle, controller')
  | .error e => (.error e, controller)

end ComputeWeaver.Mpc
