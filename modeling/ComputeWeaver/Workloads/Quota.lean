/-
Workloads.Quota — the quota ledger without a database
(`packages/workloads/quota.py`).

`reserve` keeps the demand of a key in `reservations`, so that a retry is
recognised; an empty key counts as none. `release` looks neither at the key
nor at the reservations: it takes the demand it is given off the tenant's
usage, down to zero, and the key stays in the table.
-/
import ComputeWeaver.Workloads.Reservations

namespace ComputeWeaver.Workloads

open Lib

/-- `min(...) < 0 or ... < 0`. -/
def Quota.check (quota : Quota) : Except PyError Unit := do
  if min quota.maxGpus quota.maxConcurrentJobs < 0 then
    throw (.valueError "quota limits cannot be negative")
  if ← quota.maxGpuHours.lt (.finite 0) then
    throw (.valueError "quota limits cannot be negative")

/-- What a `reserve` or a `release` names. -/
structure Demand where
  tenantId : String
  gpus : Int
  gpuHours : PyDecimal
  reservationKey : Option String
  deriving DecidableEq

namespace Demand

def check (demand : Demand) : Except PyError Unit := do
  if demand.gpus < 0 then throw (.valueError "quota reservation cannot be negative")
  if ← demand.gpuHours.lt (.finite 0) then
    throw (.valueError "quota reservation cannot be negative")

/-- The key, if there is one that counts. -/
def key? (demand : Demand) : Option (String × String) :=
  (demand.reservationKey.filter (· ≠ "")).map (demand.tenantId, ·)

end Demand

structure QuotaLedger where
  quotas : Dict String Quota
  used : Dict String Usage
  reservations : Dict (String × String) (Int × PyDecimal)

namespace QuotaLedger

def empty : QuotaLedger := ⟨.empty, .empty, .empty⟩

def usage (ledger : QuotaLedger) (tenantId : String) : Usage :=
  (ledger.used.get? tenantId).getD .zero

def configure (ledger : QuotaLedger) (tenantId : String) (quota : Quota) :
    Except PyError QuotaLedger := do
  quota.check
  let usage := ledger.usage tenantId
  if usage.gpus > quota.maxGpus then
    throw (.runtimeError "quota limits cannot be reduced below current usage")
  if ← quota.maxGpuHours.lt usage.hours then
    throw (.runtimeError "quota limits cannot be reduced below current usage")
  if usage.jobs > quota.maxConcurrentJobs then
    throw (.runtimeError "quota limits cannot be reduced below current usage")
  return { ledger with quotas := ledger.quotas.set tenantId quota }

variable (context : PyDecimal.Context)

/-- The usage with the demand added, or nothing if that exceeds the quota. -/
def within (quota : Quota) (usage : Usage) (demand : Demand) : Except PyError (Option Usage) := do
  if usage.gpus + demand.gpus > quota.maxGpus then return none
  let hours ← usage.hours.add context demand.gpuHours
  if ← quota.maxGpuHours.lt hours then return none
  if usage.jobs + 1 > quota.maxConcurrentJobs then return none
  return some ⟨usage.gpus + demand.gpus, hours, usage.jobs + 1⟩

/-- The dictionaries after a reservation was granted. -/
def grant (ledger : QuotaLedger) (demand : Demand) (usage : Usage) : QuotaLedger where
  quotas := ledger.quotas
  used := ledger.used.set demand.tenantId usage
  reservations :=
    match demand.key? with
    | none => ledger.reservations
    | some key => ledger.reservations.set key (demand.gpus, demand.gpuHours)

def reserve (ledger : QuotaLedger) (demand : Demand) : Except PyError (Bool × QuotaLedger) := do
  demand.check
  match demand.key?.bind ledger.reservations.get? with
  | some existing =>
      if existing ≠ (demand.gpus, demand.gpuHours) then
        throw (.valueError "quota reservation key reused with different demand")
      return (true, ledger)
  | none =>
      match ledger.quotas.get? demand.tenantId with
      | none => return (false, ledger)
      | some quota =>
          match ← within context quota (ledger.usage demand.tenantId) demand with
          | none => return (false, ledger)
          | some usage => return (true, ledger.grant demand usage)

def release (ledger : QuotaLedger) (demand : Demand) : Except PyError QuotaLedger := do
  match ledger.used.get? demand.tenantId with
  | none => throw (.keyError demand.tenantId)
  | some usage =>
      let hours ← usage.hours.sub context demand.gpuHours
      let hours ← PyDecimal.max (.finite 0) hours
      return { ledger with
        used := ledger.used.set demand.tenantId
          ⟨max 0 (usage.gpus - demand.gpus), hours, max 0 (usage.jobs - 1)⟩ }

end QuotaLedger

/-! ## Calls -/

inductive QuotaCall where
  | configure (tenantId : String) (quota : Quota)
  | reserve (demand : Demand)
  | release (demand : Demand)

inductive QuotaReply where
  | done
  | reserved (granted : Bool)
  deriving DecidableEq

/-- Serve one call; one that raises changes nothing. -/
def QuotaLedger.serve (context : PyDecimal.Context) (ledger : QuotaLedger) :
    QuotaCall → Except PyError QuotaReply × QuotaLedger
  | .configure tenantId quota =>
      match ledger.configure tenantId quota with
      | .ok ledger' => (.ok .done, ledger')
      | .error e => (.error e, ledger)
  | .reserve demand =>
      match ledger.reserve context demand with
      | .ok (granted, ledger') => (.ok (.reserved granted), ledger')
      | .error e => (.error e, ledger)
  | .release demand =>
      match ledger.release context demand with
      | .ok ledger' => (.ok .done, ledger')
      | .error e => (.error e, ledger)

end ComputeWeaver.Workloads
