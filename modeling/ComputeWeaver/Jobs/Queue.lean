/-
Jobs.Queue — the durable job queue and any number of concurrent
calls on it at READ COMMITTED (`packages/jobs/queue.py`,
`migrations/001_initial.sql`).

Every call is one transaction. `claim` takes the candidates of its snapshot in
order, skips those that another transaction has locked, and evaluates the WHERE
clause again on the row that is committed when it has the lock. `heartbeat`,
`succeed` and `fail` are one `UPDATE` each: found in the snapshot, locked,
evaluated again. `now()` is the time at which a transaction began, which may be
long before its `UPDATE`. The worker's role bypasses row security.

Phases, aborts and `INSERT` are as in `ComputeWeaver.Api.PostgresTransactions`.
Times are microseconds; the columns `created_at` and `updated_at` are left out.
`log` is not in the source; it records what was committed to which job.
-/
import ComputeWeaver.Lib.Locks
import ComputeWeaver.Lib.Run
import ComputeWeaver.Persistence.Postgres

namespace ComputeWeaver.Jobs

open Lib Persistence

/-! ## Rows -/

inductive JobStatus where
  | pending
  | running
  | succeeded
  | failed
  | deadLetter
  deriving DecidableEq, Repr

/-- A row of `durable_jobs`, less its id. -/
structure JobRow where
  tenantId : String
  kind : String
  payload : Document
  idempotencyKey : String
  status : JobStatus
  attempt : Nat
  maxAttempts : Int
  availableAt : Int
  leasedBy : Option String
  leaseExpiresAt : Option Int
  lastError : Option String
  result : Option Document

structure DurableJob where
  id : Int
  tenantId : String
  kind : String
  payload : Document
  idempotencyKey : String
  attempt : Nat
  maxAttempts : Int
  leaseExpiresAt : Option Int

def seconds (n : Int) : Int := n * 1000000

namespace JobRow

/-- What the UNIQUE constraint is on. -/
def key (row : JobRow) : String × String := (row.tenantId, row.idempotencyKey)

/-- The WHERE clause of `claim`. -/
def claimable (row : JobRow) (now : Int) : Bool :=
  (decide (row.status = .pending) && decide (row.availableAt ≤ now)) ||
    (decide (row.status = .running) && row.leaseExpiresAt.any (· ≤ now))

/-- The WHERE clause of `heartbeat`, `succeed` and `fail`, less the id. -/
def held (row : JobRow) (workerId : String) : Bool :=
  decide (row.status = .running) && decide (row.leasedBy = some workerId)

def claim (row : JobRow) (workerId : String) (leaseSeconds now : Int) : JobRow :=
  { row with
    status := .running
    attempt := row.attempt + 1
    leasedBy := some workerId
    leaseExpiresAt := some (now + seconds leaseSeconds) }

def toJob (row : JobRow) (id : Int) : DurableJob :=
  ⟨id, row.tenantId, row.kind, row.payload, row.idempotencyKey, row.attempt, row.maxAttempts,
    row.leaseExpiresAt⟩

end JobRow

/-! ## Calls -/

structure EnqueueArgs where
  tenantId : String
  kind : String
  payload : Document
  idempotencyKey : String
  maxAttempts : Int
  /-- the argument, or `datetime.now(UTC)` -/
  availableAt : Int

def EnqueueArgs.key (args : EnqueueArgs) : String × String := (args.tenantId, args.idempotencyKey)

inductive JobCall where
  | enqueue (args : EnqueueArgs)
  | claim (workerId : String) (leaseSeconds : Int)
  | heartbeat (job : DurableJob) (workerId : String) (leaseSeconds : Int)
  | succeed (job : DurableJob) (workerId : String) (result : Document)
  | fail (job : DurableJob) (workerId : String) (error : String)

inductive JobReply where
  | enqueued (id : Int)
  | claimed (job : Option DurableJob)
  | extended (held : Bool)
  | completed
  | failedAs (status : JobStatus)

inductive EventKind where
  | claimed
  | extended
  | succeeded
  | failed
  deriving DecidableEq, Repr

/-- A committed change of a job, with the row as it is after it. -/
structure JobEvent where
  jobId : Int
  workerId : String
  kind : EventKind
  row : JobRow

/-- How a payload is written and compared. -/
structure JobJson where
  /-- `json.dumps(payload, sort_keys=True, default=str)` -/
  dumps : Document → String
  /-- what the `jsonb` column gives back -/
  stored : Document → Document

/-! ## Updates by the holder of a lease -/

/-- An `UPDATE … WHERE id = … AND status = 'running' AND leased_by = …`. -/
structure JobUpdate where
  job : DurableJob
  workerId : String
  kind : EventKind
  write : Int → JobRow → JobRow
  updated : JobRow → JobReply
  /-- what the call answers if the row is not there -/
  missed : Except PyError JobReply

def heartbeat (job : DurableJob) (workerId : String) (leaseSeconds : Int) : JobUpdate where
  job := job
  workerId := workerId
  kind := .extended
  write now row := { row with leaseExpiresAt := some (now + seconds leaseSeconds) }
  updated _ := .extended true
  missed := .ok (.extended false)

def succeed (json : JobJson) (job : DurableJob) (workerId : String) (result : Document) :
    JobUpdate where
  job := job
  workerId := workerId
  kind := .succeeded
  write _ row :=
    { row with
      status := .succeeded
      result := some (json.stored result)
      leasedBy := none
      leaseExpiresAt := none }
  updated _ := .completed
  missed := .error (.runtimeError "job lease was lost before completion")

/-- `"dead_letter" if terminal else "pending"`. -/
def DurableJob.statusAfterFailure (job : DurableJob) : JobStatus :=
  if (job.attempt : Int) ≥ job.maxAttempts then .deadLetter else .pending

/-- `min(300, 2 ** min(job.attempt, 8))`. -/
def DurableJob.delay (job : DurableJob) : Int := min 300 (2 ^ min job.attempt 8)

def fail (job : DurableJob) (workerId : String) (error : String) : JobUpdate where
  job := job
  workerId := workerId
  kind := .failed
  write now row :=
    { row with
      status := job.statusAfterFailure
      lastError := some (String.ofList (error.toList.take 4000))
      availableAt := now + seconds job.delay
      leasedBy := none
      leaseExpiresAt := none }
  updated row := .failedAs row.status
  missed := .error (.runtimeError "job lease was lost before failure recording")

/-- The call as an update by the holder of a lease. -/
def JobCall.update? (json : JobJson) : JobCall → Option JobUpdate
  | .enqueue _ => none
  | .claim _ _ => none
  | .heartbeat job workerId leaseSeconds => some (Jobs.heartbeat job workerId leaseSeconds)
  | .succeed job workerId result => some (Jobs.succeed json job workerId result)
  | .fail job workerId error => some (Jobs.fail job workerId error)

/-! ## Transactions -/

/-- Where a call stands. The name of a phase says what it has done last. -/
inductive JobPhase where
  | idle
  | begun (now : Int)
  /-- `enqueue` has found no job of its key -/
  | absent
  /-- its `INSERT` has drawn a number from the sequence -/
  | numbered (id : Int)
  | inserted (id : Int) (row : JobRow)
  /-- `claim` has these candidates of its snapshot left -/
  | scanning (now : Int) (ids : List Int)
  /-- an update has seen its row -/
  | matched (now : Int)
  | written (now : Int) (id : Int) (row : JobRow)
  | ended (reply : Except PyError JobReply)

structure QueueTx where
  jobs : Dict Int JobRow
  /-- `bigserial` -/
  nextId : Int
  rowLocks : Locks Int
  keyLocks : Locks (String × String)
  clock : Int
  phase : Nat → JobPhase
  log : List JobEvent

inductive QueueMove where
  | advance (call : Nat)
  /-- a `claim` passes over a candidate that someone else has locked -/
  | skip (call : Nat)
  | abort (call : Nat) (error : PyError)
  | tick (micros : Nat)

namespace QueueTx

def init (clock : Int) : QueueTx := ⟨.empty, 1, .none, .none, clock, fun _ => .idle, []⟩

def goto (x : QueueTx) (i : Nat) (phase : JobPhase) : QueueTx :=
  { x with phase := Function.update x.phase i phase }

/-- The transaction ends without having written anything. -/
def finish (x : QueueTx) (i : Nat) (reply : Except PyError JobReply) : QueueTx :=
  { x with
    rowLocks := x.rowLocks.release i
    keyLocks := x.keyLocks.release i
    phase := Function.update x.phase i (.ended reply) }

/-- `COMMIT`. -/
def commit (x : QueueTx) (i : Nat) (id : Int) (row : JobRow) (events : List JobEvent)
    (reply : JobReply) : QueueTx :=
  { x.finish i (.ok reply) with
    jobs := x.jobs.set id row
    log := x.log ++ events }

def lockRow (x : QueueTx) (i : Nat) (id : Int) (phase : JobPhase) : QueueTx :=
  { x.goto i phase with rowLocks := x.rowLocks.acquire id i }

def lockKey (x : QueueTx) (i : Nat) (key : String × String) (phase : JobPhase) : QueueTx :=
  { x.goto i phase with keyLocks := x.keyLocks.acquire key i }

/-- Go on if a check passes. -/
def checked (x : QueueTx) (i : Nat) (check : Except PyError Unit) (next : QueueTx) : QueueTx :=
  match check with
  | .error e => x.finish i (.error e)
  | .ok () => next

def jobOf (x : QueueTx) (key : String × String) : Option (Int × JobRow) :=
  x.jobs.entries.find? fun entry => entry.2.key = key

/-- `ORDER BY available_at, id`. -/
def claimOrder (a b : Int × JobRow) : Bool :=
  decide (a.2.availableAt < b.2.availableAt) ||
    (decide (a.2.availableAt = b.2.availableAt) && decide (a.1 ≤ b.1))

/-- The candidates in the snapshot of a `claim`. -/
def candidates (x : QueueTx) (now : Int) : List Int :=
  (pySorted claimOrder (x.jobs.entries.filter fun entry => entry.2.claimable now)).map Prod.fst

variable (json : JobJson)

/-- The row that `enqueue` inserts. -/
def newRow (args : EnqueueArgs) : JobRow where
  tenantId := args.tenantId
  kind := args.kind
  payload := json.stored args.payload
  idempotencyKey := args.idempotencyKey
  status := .pending
  attempt := 0
  maxAttempts := args.maxAttempts
  availableAt := args.availableAt
  leasedBy := none
  leaseExpiresAt := none
  lastError := none
  result := none

def advanceEnqueue (x : QueueTx) (i : Nat) (args : EnqueueArgs) : QueueTx :=
  match x.phase i with
  | .idle =>
      if args.maxAttempts < 1 then
        x.finish i (.error (.valueError "max_attempts must be positive"))
      else x.checked i (checkTenant args.tenantId) (x.goto i (.begun x.clock))
  | .begun _ =>
      match x.jobOf args.key with
      | some (id, row) =>
          if row.kind ≠ args.kind ∨ json.dumps row.payload ≠ json.dumps args.payload then
            x.finish i (.error (.valueError "job idempotency key reused with different payload"))
          else x.finish i (.ok (.enqueued id))
      | none => x.goto i .absent
  | .absent => { x.goto i (.numbered x.nextId) with nextId := x.nextId + 1 }
  | .numbered id =>
      if x.keyLocks.available args.key i then
        if (x.jobOf args.key).isSome then
          x.finish i (.error (.databaseError "UniqueViolation"))
        else x.lockKey i args.key (.inserted id (newRow json args))
      else x
  | .inserted id row => x.commit i id row [] (.enqueued id)
  | _ => x

def advanceClaim (x : QueueTx) (i : Nat) (workerId : String) (leaseSeconds : Int) : QueueTx :=
  match x.phase i with
  | .idle =>
      if leaseSeconds < 5 then
        x.finish i (.error (.valueError "lease must be at least five seconds"))
      else x.goto i (.begun x.clock)
  | .begun now => x.goto i (.scanning now (x.candidates now))
  | .scanning _ [] => x.finish i (.ok (.claimed none))
  | .scanning now (id :: rest) =>
      match x.jobs.get? id with
      | none => x.goto i (.scanning now rest)
      | some row =>
          if x.rowLocks.available id i && row.claimable now then
            x.lockRow i id (.written now id (row.claim workerId leaseSeconds now))
          else x.goto i (.scanning now rest)
  | .written _ id row =>
      x.commit i id row [⟨id, workerId, .claimed, row⟩] (.claimed (some (row.toJob id)))
  | _ => x

def advanceUpdate (x : QueueTx) (i : Nat) (update : JobUpdate) : QueueTx :=
  match x.phase i with
  | .idle => x.checked i (checkTenant update.job.tenantId) (x.goto i (.begun x.clock))
  | .begun now =>
      if (x.jobs.get? update.job.id).any (·.held update.workerId) then x.goto i (.matched now)
      else x.finish i update.missed
  | .matched now =>
      if x.rowLocks.available update.job.id i then
        match x.jobs.get? update.job.id with
        | none => x.finish i update.missed
        | some row =>
            if row.held update.workerId then
              x.lockRow i update.job.id (.written now update.job.id (update.write now row))
            else x.finish i update.missed
      else x
  | .written _ id row =>
      x.commit i id row [⟨id, update.workerId, update.kind, row⟩] (update.updated row)
  | _ => x

variable (calls : Nat → JobCall)

/-- The next step of call `i`. -/
def advance (x : QueueTx) (i : Nat) : QueueTx :=
  match calls i with
  | .enqueue args => x.advanceEnqueue json i args
  | .claim workerId leaseSeconds => x.advanceClaim i workerId leaseSeconds
  | .heartbeat job workerId leaseSeconds =>
      x.advanceUpdate i (Jobs.heartbeat job workerId leaseSeconds)
  | .succeed job workerId result => x.advanceUpdate i (Jobs.succeed json job workerId result)
  | .fail job workerId error => x.advanceUpdate i (Jobs.fail job workerId error)

/-- Also a transaction that locked a row and then did not change it makes a
`claim` pass over it, until it ends. -/
def skip (x : QueueTx) (i : Nat) : QueueTx :=
  match x.phase i with
  | .scanning now (_ :: rest) => x.goto i (.scanning now rest)
  | _ => x

/-- The transaction of call `i` fails, if it is open. -/
def abort (x : QueueTx) (i : Nat) (error : PyError) : QueueTx :=
  match x.phase i with
  | .idle => x
  | .ended _ => x
  | _ => x.finish i (.error error)

def step (x : QueueTx) : QueueMove → QueueTx
  | .advance i => x.advance json calls i
  | .skip i => x.skip i
  | .abort i error => x.abort i error
  | .tick micros => { x with clock := x.clock + micros }

def after (clock : Int) (moves : List QueueMove) : QueueTx :=
  run (step json calls) (init clock) moves

end QueueTx

end ComputeWeaver.Jobs
