/-
Workloads.PostgresQuota — any number of concurrent `configure`,
`reserve` and `release` transactions at READ COMMITTED
(`packages/workloads/quota.py`, `migrations/001_initial.sql`).

Statements, phases and aborts are as in
`ComputeWeaver.Api.PostgresTransactions`. An `UPDATE` finds its row in the
snapshot of the statement, waits for its lock, and evaluates its WHERE clause
again on the row that is committed then, so it is two steps. The columns
`version`, `updated_at` and `created_at` are left out, and of `released_at`
only whether it is null matters.
-/
import ComputeWeaver.Lib.Locks
import ComputeWeaver.Lib.Run
import ComputeWeaver.Persistence.Postgres
import ComputeWeaver.Workloads.Quota

namespace ComputeWeaver.Workloads

open Lib Persistence

/-- A row of `quota_ledgers`. -/
structure LedgerRow where
  quota : Quota
  used : Usage
  deriving DecidableEq

structure QuotaTables where
  ledgers : Dict String LedgerRow
  reservations : Reservations

/-- Primary key of `quota_reservations`. -/
def Demand.key (demand : Demand) : String × String :=
  (demand.tenantId, demand.reservationKey.getD "")

/-- The row of `quota_reservations` with the demand. -/
def Demand.reservation (demand : Demand) (released : Bool) : Reservation :=
  ⟨demand.gpus, demand.gpuHours, released⟩

namespace LedgerRow

/-- The WHERE clause of `configure`. -/
def below (row : LedgerRow) (quota : Quota) : Bool :=
  decide (row.used.gpus ≤ quota.maxGpus) && Numeric.le row.used.hours quota.maxGpuHours &&
    decide (row.used.jobs ≤ quota.maxConcurrentJobs)

/-- The WHERE clause of `reserve`. -/
def fits (row : LedgerRow) (demand : Demand) : Bool :=
  decide (row.used.gpus + demand.gpus ≤ row.quota.maxGpus) &&
    Numeric.le (Numeric.add row.used.hours demand.gpuHours) row.quota.maxGpuHours &&
    decide (row.used.jobs + 1 ≤ row.quota.maxConcurrentJobs)

def plus (row : LedgerRow) (demand : Demand) : LedgerRow where
  quota := row.quota
  used := ⟨row.used.gpus + demand.gpus, Numeric.add row.used.hours demand.gpuHours,
    row.used.jobs + 1⟩

def minus (row : LedgerRow) (demand : Demand) : LedgerRow where
  quota := row.quota
  used := ⟨max 0 (row.used.gpus - demand.gpus),
    Numeric.greatest (.finite 0) (Numeric.sub row.used.hours demand.gpuHours),
    max 0 (row.used.jobs - 1)⟩

end LedgerRow

/-! ## Transactions -/

/-- Where a call stands. The name of a phase says what it has done last. -/
inductive QuotaPhase where
  | idle
  | begun
  /-- `configure` has written its row -/
  | configured (row : LedgerRow)
  /-- `reserve` has found no row of its key -/
  | unmatched
  /-- the `UPDATE` of `reserve` has seen a ledger with room -/
  | adding
  | added (row : LedgerRow)
  | inserted (row : LedgerRow)
  /-- the first `UPDATE` of `release` has seen its reservation -/
  | matched
  | marked
  /-- its second `UPDATE` has seen a ledger, or none -/
  | subtracting (seen : Bool)
  | subtracted (row : LedgerRow)
  | ended (reply : Except PyError QuotaReply)
  deriving DecidableEq

structure QuotaTx where
  tables : QuotaTables
  ledgerLocks : Locks String
  reservationLocks : Locks (String × String)
  phase : Nat → QuotaPhase

inductive QuotaMove where
  | advance (call : Nat)
  | abort (call : Nat) (error : PyError)

namespace QuotaTx

def init : QuotaTx := ⟨⟨.empty, .empty⟩, .none, .none, fun _ => .idle⟩

def goto (x : QuotaTx) (i : Nat) (phase : QuotaPhase) : QuotaTx :=
  { x with phase := Function.update x.phase i phase }

/-- The transaction ends without having written anything. -/
def finish (x : QuotaTx) (i : Nat) (reply : Except PyError QuotaReply) : QuotaTx where
  tables := x.tables
  ledgerLocks := x.ledgerLocks.release i
  reservationLocks := x.reservationLocks.release i
  phase := Function.update x.phase i (.ended reply)

/-- `COMMIT`. -/
def commit (x : QuotaTx) (i : Nat) (tables : QuotaTables) (reply : QuotaReply) : QuotaTx :=
  { x.finish i (.ok reply) with tables := tables }

/-- Go on with the lock of a ledger, or wait for it. -/
def onLedger (x : QuotaTx) (i : Nat) (tenantId : String) (next : QuotaTx) : QuotaTx :=
  if x.ledgerLocks.available tenantId i then next else x

def onReservation (x : QuotaTx) (i : Nat) (key : String × String) (next : QuotaTx) : QuotaTx :=
  if x.reservationLocks.available key i then next else x

def lockLedger (x : QuotaTx) (i : Nat) (tenantId : String) (phase : QuotaPhase) : QuotaTx :=
  { x.goto i phase with ledgerLocks := x.ledgerLocks.acquire tenantId i }

def lockReservation (x : QuotaTx) (i : Nat) (key : String × String) (phase : QuotaPhase) :
    QuotaTx :=
  { x.goto i phase with reservationLocks := x.reservationLocks.acquire key i }

/-- Go on if a check passes. -/
def checked (x : QuotaTx) (i : Nat) (check : Except PyError Unit) (next : QuotaTx) : QuotaTx :=
  match check with
  | .error e => x.finish i (.error e)
  | .ok () => next

def advanceConfigure (x : QuotaTx) (i : Nat) (tenantId : String) (quota : Quota) : QuotaTx :=
  match x.phase i with
  | .idle => x.checked i (do quota.check; checkTenant tenantId) (x.goto i .begun)
  | .begun =>
      x.checked i (do checkInteger quota.maxGpus; checkInteger quota.maxConcurrentJobs) <|
        x.onLedger i tenantId <|
          match x.tables.ledgers.get? tenantId with
          | none => x.lockLedger i tenantId (.configured ⟨quota, .zero⟩)
          | some row =>
              if row.below quota then x.lockLedger i tenantId (.configured ⟨quota, row.used⟩)
              else x.finish i (.error
                (.runtimeError "quota limits cannot be reduced below current usage"))
  | .configured row =>
      x.commit i { x.tables with ledgers := x.tables.ledgers.set tenantId row } .done
  | _ => x

/-- `not reservation_key`. -/
def requireKey (demand : Demand) (message : String) : Except PyError Unit :=
  if demand.key.2 = "" then throw (.valueError message) else pure ()

def advanceReserve (x : QuotaTx) (i : Nat) (demand : Demand) : QuotaTx :=
  match x.phase i with
  | .idle =>
      x.checked i (do
        demand.check
        requireKey demand "persistent quota reservations require a key"
        checkTenant demand.tenantId) (x.goto i .begun)
  | .begun =>
      x.checked i (checkText demand.key.2) <|
        match x.tables.reservations.get? demand.key with
        | some prior =>
            if prior.gpus ≠ demand.gpus ∨ prior.gpuHours ≠ demand.gpuHours then
              x.finish i (.error
                (.valueError "quota reservation key reused with different demand"))
            else x.finish i (.ok (.reserved !prior.released))
        | none => x.goto i .unmatched
  | .unmatched =>
      if (x.tables.ledgers.get? demand.tenantId).any (·.fits demand) then x.goto i .adding
      else x.finish i (.ok (.reserved false))
  | .adding =>
      x.onLedger i demand.tenantId <|
        match x.tables.ledgers.get? demand.tenantId with
        | none => x.finish i (.ok (.reserved false))
        | some row =>
            if row.fits demand then x.lockLedger i demand.tenantId (.added (row.plus demand))
            else x.finish i (.ok (.reserved false))
  | .added row =>
      x.onReservation i demand.key <|
        if (x.tables.reservations.get? demand.key).isSome then
          x.finish i (.error (.databaseError "UniqueViolation"))
        else x.lockReservation i demand.key (.inserted row)
  | .inserted row =>
      x.commit i
        ⟨x.tables.ledgers.set demand.tenantId row,
          x.tables.reservations.set demand.key (demand.reservation false)⟩ (.reserved true)
  | _ => x

def advanceRelease (x : QuotaTx) (i : Nat) (demand : Demand) : QuotaTx :=
  match x.phase i with
  | .idle =>
      x.checked i (do
        requireKey demand "persistent quota release requires a reservation key"
        checkTenant demand.tenantId) (x.goto i .begun)
  | .begun =>
      x.checked i (checkText demand.key.2) <|
        if x.tables.reservations.get? demand.key = some (demand.reservation false) then
          x.goto i .matched
        else x.finish i (.ok .done)
  | .matched =>
      x.onReservation i demand.key <|
        if x.tables.reservations.get? demand.key = some (demand.reservation false) then
          x.lockReservation i demand.key .marked
        else x.finish i (.ok .done)
  | .marked => x.goto i (.subtracting (x.tables.ledgers.get? demand.tenantId).isSome)
  | .subtracting false =>
      x.commit i { x.tables with
        reservations := x.tables.reservations.set demand.key (demand.reservation true) } .done
  | .subtracting true =>
      x.onLedger i demand.tenantId <|
        match x.tables.ledgers.get? demand.tenantId with
        | none => x
        | some row => x.lockLedger i demand.tenantId (.subtracted (row.minus demand))
  | .subtracted row =>
      x.commit i
        ⟨x.tables.ledgers.set demand.tenantId row,
          x.tables.reservations.set demand.key (demand.reservation true)⟩ .done
  | _ => x

variable (calls : Nat → QuotaCall)

/-- The next step of call `i`. -/
def advance (x : QuotaTx) (i : Nat) : QuotaTx :=
  match calls i with
  | .configure tenantId quota => x.advanceConfigure i tenantId quota
  | .reserve demand => x.advanceReserve i demand
  | .release demand => x.advanceRelease i demand

/-- The transaction of call `i` fails, if it is open. -/
def abort (x : QuotaTx) (i : Nat) (error : PyError) : QuotaTx :=
  match x.phase i with
  | .idle => x
  | .ended _ => x
  | _ => x.finish i (.error error)

def step (x : QuotaTx) : QuotaMove → QuotaTx
  | .advance i => x.advance calls i
  | .abort i error => x.abort i error

def after (moves : List QuotaMove) : QuotaTx := run (step calls) init moves

end QuotaTx

end ComputeWeaver.Workloads
