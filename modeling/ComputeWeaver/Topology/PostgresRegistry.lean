/-
Topology.PostgresRegistry — any number of concurrent `create_draft`
and `publish` transactions of one tenant at READ COMMITTED
(`packages/topology/registry.py` with a runtime, `migrations/001_initial.sql`).

`SELECT … FOR UPDATE` waits for the lock of the draft's row and reads what is
committed then. Where no row is committed there is nothing to lock: it returns
no row at once, also while somebody else's first draft is not committed yet.
`INSERT … ON CONFLICT DO UPDATE` waits for whoever has the row locked or has
inserted it without committing, and overwrites what is committed then.

Phases and aborts are as in `ComputeWeaver.Api.PostgresTransactions`.
`updated_at` is left out. Only `publish` writes `topology_versions`, and it has
the draft's row locked then, so its `INSERT` finds no uncommitted row.
-/
import ComputeWeaver.Lib.Locks
import ComputeWeaver.Lib.Run
import ComputeWeaver.Persistence.Postgres
import ComputeWeaver.Topology.Validation

namespace ComputeWeaver.Topology

open Lib Persistence

/-! ## Tables and calls -/

/-- A row of `topology_drafts`, less its key. -/
structure DraftRow where
  revision : Int
  assets : List Value
  relationships : List Value

/-- A row of `topology_versions`. -/
structure VersionRow where
  version : Int
  assets : List Value
  relationships : List Value
  publishedAt : DateTime
  etag : String

structure TopologySnapshot where
  version : Int
  tenantId : String
  assets : List Asset
  relationships : List Relationship
  publishedAt : DateTime
  etag : String

inductive RegistryCall where
  | createDraft (assets : List Asset) (relationships : List Relationship)
  | publish (expectedDraftRevision : Int)

inductive RegistryReply where
  /-- the text `draft-{tenant_id}-{revision}` -/
  | draft (revision : Int)
  | published (snapshot : TopologySnapshot)

/-- What the registry is configured with, and the tenant of the calls. -/
structure Registry where
  env : PyEnv
  tenantId : String

namespace Registry

variable (registry : Registry)

/-- The checks of `create_draft` in front of its transaction. -/
def checkDraft (assets : List Asset) (relationships : List Relationship) :
    Except PyError Unit := do
  if assets.any fun asset => asset.tenantId ≠ registry.tenantId then
    throw (.permissionError "draft contains foreign tenant assets")
  validateGraph assets relationships

/-- The row that `create_draft` writes. -/
def draftRow (revision : Int) (assets : List Asset) (relationships : List Relationship) :
    DraftRow where
  revision := revision
  assets := assets.map fun asset => asset.stored registry.env
  relationships := relationships.map fun relationship => .dict relationship.asdict

/-- The part of `publish` between its first and its second statement. -/
def readDraft (row : Option DraftRow) (expectedDraftRevision : Int) :
    Except PyError (List Asset × List Relationship) :=
  match row with
  | none => throw (.valueError "no draft exists")
  | some row =>
      if row.revision ≠ expectedDraftRevision then
        throw (.runtimeError "draft changed since validation")
      else do
        let assets ← row.assets.mapM (Asset.ofDict registry.env)
        let relationships ← row.relationships.mapM Relationship.ofDict
        validateGraph assets relationships
        pure (assets, relationships)

/-- `SELECT COALESCE(max(version), 0) + 1`. -/
def nextVersion (versions : List VersionRow) : Int :=
  (versions.map VersionRow.version).foldl max 0 + 1

/-- `_snapshot`; `now` is `utc_now()`. -/
def snapshot (version : Int) (assets : List Asset) (relationships : List Relationship)
    (now : Int) : TopologySnapshot where
  version := version
  tenantId := registry.tenantId
  assets := assets
  relationships := relationships
  publishedAt := .aware now
  etag := registry.env.digest (.dict
    [("assets", .list (assets.map fun asset => .dict asset.asdict)),
      ("relationships", .list (relationships.map fun relationship => .dict relationship.asdict)),
      ("version", .int version)])

/-- The row that `publish` inserts. -/
def versionRow (snapshot : TopologySnapshot) : VersionRow where
  version := snapshot.version
  assets := snapshot.assets.map fun asset => asset.stored registry.env
  relationships := snapshot.relationships.map fun relationship => .dict relationship.asdict
  publishedAt := snapshot.publishedAt
  etag := snapshot.etag

end Registry

/-! ## Transactions -/

/-- Where a call stands. The name of a phase says what it has done last. -/
inductive RegistryPhase where
  | idle
  | begun
  /-- `create_draft` has its revision, from a row or from none -/
  | revised (found : Bool) (revision : Int)
  /-- `create_draft` has written its row -/
  | written (found : Bool) (row : DraftRow)
  /-- `publish` has read and locked the draft -/
  | drafted (assets : List Asset) (relationships : List Relationship)
  | numbered (version : Int) (assets : List Asset) (relationships : List Relationship)
  | inserted (snapshot : TopologySnapshot)
  | ended (reply : Except PyError RegistryReply)

/-- The committed row of the tenant's draft, its committed versions, and who has
the draft's row. -/
structure RegistryTx where
  draft : Option DraftRow
  versions : List VersionRow
  locks : Locks Unit
  phase : Nat → RegistryPhase

/-- A step of a call, at a reading of the clock, or its end by a failure. -/
inductive RegistryMove where
  | advance (call : Nat) (now : Int)
  | abort (call : Nat) (error : PyError)

namespace RegistryTx

def init : RegistryTx := ⟨none, [], .none, fun _ => .idle⟩

def goto (x : RegistryTx) (i : Nat) (phase : RegistryPhase) : RegistryTx :=
  { x with phase := Function.update x.phase i phase }

/-- The transaction ends without having written anything. -/
def finish (x : RegistryTx) (i : Nat) (reply : Except PyError RegistryReply) : RegistryTx :=
  { x.goto i (.ended reply) with locks := x.locks.release i }

/-- Go on if a check passes. -/
def checked (x : RegistryTx) (i : Nat) (check : Except PyError Unit) (next : RegistryTx) :
    RegistryTx :=
  match check with
  | .error e => x.finish i (.error e)
  | .ok () => next

/-- Go on with the lock of the draft, or wait for it. -/
def lock (x : RegistryTx) (i : Nat) (phase : RegistryPhase) : RegistryTx :=
  if x.locks.available () i then { x.goto i phase with locks := x.locks.acquire () i } else x

variable (registry : Registry)

def advanceDraft (x : RegistryTx) (i : Nat) (assets : List Asset)
    (relationships : List Relationship) : RegistryTx :=
  match x.phase i with
  | .idle =>
      x.checked i (do registry.checkDraft assets relationships; checkTenant registry.tenantId)
        (x.goto i .begun)
  | .begun =>
      match x.draft with
      | some row => x.lock i (.revised true (row.revision + 1))
      | none => x.goto i (.revised false 1)
  | .revised found revision =>
      x.lock i (.written found (registry.draftRow revision assets relationships))
  | .written _ row =>
      -- `COMMIT`
      { x.finish i (.ok (.draft row.revision)) with draft := some row }
  | _ => x

def advancePublish (x : RegistryTx) (i : Nat) (expectedDraftRevision now : Int) : RegistryTx :=
  match x.phase i with
  | .idle => x.checked i (checkTenant registry.tenantId) (x.goto i .begun)
  | .begun =>
      match registry.readDraft x.draft expectedDraftRevision with
      | .ok (assets, relationships) => x.lock i (.drafted assets relationships)
      | .error e =>
          -- a row that is there is waited for before it is looked at
          if x.draft.isSome && !x.locks.available () i then x else x.finish i (.error e)
  | .drafted assets relationships =>
      x.goto i (.numbered (Registry.nextVersion x.versions) assets relationships)
  | .numbered version assets relationships =>
      if x.versions.any fun row => row.version = version then
        x.finish i (.error (.databaseError "UniqueViolation"))
      else x.goto i (.inserted (registry.snapshot version assets relationships now))
  | .inserted snapshot =>
      -- `COMMIT`
      { x.finish i (.ok (.published snapshot)) with
        versions := x.versions ++ [registry.versionRow snapshot] }
  | _ => x

variable (calls : Nat → RegistryCall)

/-- The next step of call `i`. -/
def advance (x : RegistryTx) (i : Nat) (now : Int) : RegistryTx :=
  match calls i with
  | .createDraft assets relationships => x.advanceDraft registry i assets relationships
  | .publish expectedDraftRevision => x.advancePublish registry i expectedDraftRevision now

/-- The transaction of call `i` fails, if it is open. -/
def abort (x : RegistryTx) (i : Nat) (error : PyError) : RegistryTx :=
  match x.phase i with
  | .idle => x
  | .ended _ => x
  | _ => x.finish i (.error error)

def step (x : RegistryTx) : RegistryMove → RegistryTx
  | .advance i now => x.advance registry calls i now
  | .abort i error => x.abort i error

end RegistryTx

end ComputeWeaver.Topology
