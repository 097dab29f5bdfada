/-
Api.PostgresTransactions — any number of concurrent
`PostgresResourceStore.put` transactions at READ COMMITTED.

A statement sees what is committed when it starts, and the transaction's own
writes. `DELETE` and `SELECT … FOR UPDATE` find their row in that snapshot and
then wait for its lock; if the row was deleted in the meantime they go on
without it. An `INSERT` waits for whoever has an uncommitted row under its
key, and fails if a row is committed there. `ON CONFLICT DO UPDATE` takes the
row that is committed at that point, seen or not. Locks are held to the end of
the transaction. So a `DELETE` or a locking `SELECT` is two steps, snapshot
and lock, an `INSERT` is one; a step that would have to wait does nothing.

A transaction's writes are in its phase and reach the tables when it commits.
It may be aborted at any step (deadlock, lost connection). `writers` tells
which transaction wrote the row of an idempotency key: a row that replaced
another one is not the row a snapshot saw. `clock` is the database's, a
transaction's `now()` is the time it began. `log` is not in the source; it
records the commits.
-/
import ComputeWeaver.Api.PostgresStore
import ComputeWeaver.Lib.Locks
import ComputeWeaver.Lib.Run

namespace ComputeWeaver.Api

open Lib Persistence

/-- What a transaction keeps from its first statements: `now()`, and whether it
has deleted the expired record of its key. -/
structure Begun where
  now : Int
  deletes : Bool

/-- Where a `put` stands. The name of a phase says what it has done last. -/
inductive PutPhase where
  | idle
  | begun (now : Int)
  /-- the `DELETE` has seen an expired row, by this writer -/
  | deleting (now : Int) (seen : Option Nat)
  | deleted (tx : Begun)
  /-- the `SELECT` on `idempotency_records` has seen a row, by this writer -/
  | matching (tx : Begun) (seen : Option Nat)
  | unmatched (tx : Begun)
  /-- the `SELECT` on `resources` has seen a row -/
  | reading (tx : Begun) (seen : Bool)
  | found (tx : Begun) (previous : Option ResourceRow)
  | stored (tx : Begun) (resource : StoredResource)
  | versioned (tx : Begun) (resource : StoredResource)
  | recorded (tx : Begun) (resource : StoredResource) (expiresAt : Int)
  | committed (resource : StoredResource)
  | replayed (resource : StoredResource)
  | raised (error : PyError)

/-- A commit that wrote a version. -/
structure Commit where
  call : Nat
  resource : StoredResource
  committedAt : Int
  expiresAt : Int

structure TxState where
  tables : Tables
  writers : String × String → Option Nat
  resourceLocks : Locks (String × String × String)
  versionLocks : Locks (String × String × String × Int)
  recordLocks : Locks (String × String)
  clock : Int
  phase : Nat → PutPhase
  log : List Commit

inductive TxMove where
  /-- the next step of a call; `clock` is its process's `datetime.now(UTC)` -/
  | advance (call : Nat) (clock : Int)
  | abort (call : Nat) (error : PyError)
  | tick (micros : Nat)

namespace TxState

def init (clock : Int) : TxState :=
  ⟨.empty, fun _ => none, .none, .none, .none, clock, fun _ => .idle, []⟩

/-- The call goes on to another phase. -/
def goto (x : TxState) (i : Nat) (phase : PutPhase) : TxState :=
  { x with phase := Function.update x.phase i phase }

/-- The transaction ends without having written anything. -/
def finish (x : TxState) (i : Nat) (phase : PutPhase) : TxState :=
  { x with
    resourceLocks := x.resourceLocks.release i
    versionLocks := x.versionLocks.release i
    recordLocks := x.recordLocks.release i
    phase := Function.update x.phase i phase }

def lockResource (x : TxState) (i : Nat) (key : String × String × String) : TxState :=
  { x with resourceLocks := x.resourceLocks.acquire key i }

def lockVersion (x : TxState) (i : Nat) (key : String × String × String × Int) : TxState :=
  { x with versionLocks := x.versionLocks.acquire key i }

def lockRecord (x : TxState) (i : Nat) (key : String × String) : TxState :=
  { x with recordLocks := x.recordLocks.acquire key i }

variable (db : Database) (args : Nat → PutArgs)

/-- Go on if a check of the parameters passes. -/
def checked (x : TxState) (i : Nat) (check : Except PyError Unit) (next : TxState) : TxState :=
  match check with
  | .error e => x.finish i (.raised e)
  | .ok () => next

/-- The writer of the expired row that a `DELETE` sees. -/
def expiredWriter (x : TxState) (key : String × String) (now : Int) : Option Nat :=
  match x.tables.records.get? key with
  | some row => if row.expiresAt ≤ now then x.writers key else none
  | none => none

/-- The row of the key is still the one that was seen. -/
def stillThere (x : TxState) (key : String × String) (seen : Nat) : Bool :=
  x.writers key = some seen

/-- The locked row decides: replay or refuse. -/
def answer (x : TxState) (i : Nat) : TxState :=
  match x.tables.records.get? (args i).recordKey with
  | none => x
  | some row =>
      if row.requestHash ≠ (args i).safeRequestHash db.env then
        x.finish i (.raised (.valueError "idempotency key reused with different request"))
      else match fromResponse db.env (db.readDocument row.responseBody) with
        | .ok resource => x.finish i (.replayed resource)
        | .error e => x.finish i (.raised e)

def versionKey (args : PutArgs) (resource : StoredResource) : String × String × String × Int :=
  (args.tenantId, args.kind, args.resourceId, resource.version)

/-- `COMMIT`. -/
def commit (x : TxState) (i : Nat) (resource : StoredResource) (expiresAt : Int) : TxState :=
  { x.finish i (.committed resource) with
    tables := x.tables.insert (args i) resource
      ⟨(args i).safeRequestHash db.env, responseOf resource, expiresAt⟩
    writers := Function.update x.writers (args i).recordKey (some i)
    log := x.log ++ [⟨i, resource, x.clock, expiresAt⟩] }

/-- The next step of call `i`. -/
def advance (x : TxState) (i : Nat) (clock : Int) : TxState :=
  let key := (args i).recordKey
  match x.phase i with
  | .idle => x.checked i (checkTenant (args i).tenantId) (x.goto i (.begun x.clock))
  | .begun now =>
      x.checked i (checkText (args i).idempotencyKey)
        (x.goto i (.deleting now (x.expiredWriter key now)))
  | .deleting now none => x.goto i (.deleted ⟨now, false⟩)
  | .deleting now (some seen) =>
      if x.recordLocks.available key i then
        if x.stillThere key seen then (x.lockRecord i key).goto i (.deleted ⟨now, true⟩)
        else x.goto i (.deleted ⟨now, false⟩)
      else x
  | .deleted tx => x.goto i (.matching tx (if tx.deletes then none else x.writers key))
  | .matching tx none => x.goto i (.unmatched tx)
  | .matching tx (some seen) =>
      if x.recordLocks.available key i then
        if x.stillThere key seen then x.answer db args i else x.goto i (.unmatched tx)
      else x
  | .unmatched tx =>
      x.checked i (do checkText (args i).kind; checkText (args i).resourceId)
        (x.goto i (.reading tx (x.tables.resources.get? (args i).key).isSome))
  | .reading tx false => x.goto i (.found tx none)
  | .reading tx true =>
      if x.resourceLocks.available (args i).key i then
        (x.lockResource i (args i).key).goto i
          (.found tx (x.tables.resources.get? (args i).key))
      else x
  | .found tx previous =>
      if staleMatch (args i) previous then
        x.finish i (.raised (.runtimeError "If-Match optimistic concurrency conflict"))
      else
        let resource := writtenRow db.env (args i) previous
        x.checked i (checkJsonb resource.body)
          (if x.resourceLocks.available (args i).key i then
            (x.lockResource i (args i).key).goto i (.stored tx resource)
          else x)
  | .stored tx resource =>
      if x.versionLocks.available (versionKey (args i) resource) i then
        if (x.tables.versions.get? (versionKey (args i) resource)).isSome then
          x.finish i (.raised (.databaseError "UniqueViolation"))
        else (x.lockVersion i (versionKey (args i) resource)).goto i (.versioned tx resource)
      else x
  | .versioned tx resource =>
      if x.recordLocks.available key i then
        if (x.tables.records.get? key).isSome && !tx.deletes then
          x.finish i (.raised (.databaseError "UniqueViolation"))
        else (x.lockRecord i key).goto i (.recorded tx resource (clock + db.idempotencyTtl))
      else x
  | .recorded _ resource expiresAt => x.commit db args i resource expiresAt
  | .committed _ => x
  | .replayed _ => x
  | .raised _ => x

/-- The transaction of call `i` fails, if it is open. -/
def abort (x : TxState) (i : Nat) (error : PyError) : TxState :=
  match x.phase i with
  | .idle => x
  | .committed _ => x
  | .replayed _ => x
  | .raised _ => x
  | _ => x.finish i (.raised error)

def step (x : TxState) : TxMove → TxState
  | .advance i clock => x.advance db args i clock
  | .abort i error => x.abort i error
  | .tick micros => { x with clock := x.clock + micros }

end TxState

end ComputeWeaver.Api
