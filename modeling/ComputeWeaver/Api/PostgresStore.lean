/-
Api.PostgresStore — the tables of the resource store on Postgres
(`apps/api/store.py`, `PostgresResourceStore`) and what a put writes.

Where the in-process store hashes the
body it is given, this one hashes the body after `_json_safe` and with its
`id` set.

`Database` collects what the code relies on of Postgres and its driver: how a
`jsonb` column reads back (a dictionary may come back in another order, and a
float as the integer or float its decimal text is), and how `ORDER BY` compares
texts. Postgres stores no NUL character, neither in a `text` column nor inside
a `jsonb`.
-/
import ComputeWeaver.Api.Store
import ComputeWeaver.Lib.Json
import ComputeWeaver.Persistence.Postgres

namespace ComputeWeaver.Api

open Lib Persistence

/-! ## Tables -/

/-- A row of `resources`, less its key. -/
structure ResourceRow where
  version : Int
  etag : String
  body : Document

/-- A row of `resource_versions`, less its key. -/
structure VersionRow where
  etag : String
  body : Document

/-- A row of `idempotency_records`, less its key. Times are microseconds. -/
structure RecordRow where
  requestHash : String
  responseBody : Document
  expiresAt : Int

structure Tables where
  resources : Dict (String × String × String) ResourceRow
  versions : Dict (String × String × String × Int) VersionRow
  records : Dict (String × String) RecordRow

def Tables.empty : Tables := ⟨.empty, .empty, .empty⟩

structure Database where
  env : PyEnv
  /-- `idempotency_ttl` -/
  idempotencyTtl : Int
  /-- a `jsonb` value as the driver returns it -/
  read : Value → Value
  read_structural : Value.Structural read
  read_none : read .none = .none
  read_bool : ∀ b, read (.bool b) = .bool b
  read_str : ∀ s, read (.str s) = .str s
  read_int : ∀ i, read (.int i) = .int i
  /-- the order of `ORDER BY` on a text column -/
  collate : String → String → Bool

namespace Database

variable (db : Database)

/-- `dict(row["body"])`. -/
def readDocument (body : Document) : Document :=
  match db.read (.dict body) with
  | .dict items => items
  | _ => []

end Database

/-! ## What Postgres refuses -/

mutual

def valueHasNul : Value → Bool
  | .str s => hasNul s
  | .list items => listHasNul items
  | .dict items => itemsHaveNul items
  | _ => false

def listHasNul : List Value → Bool
  | [] => false
  | item :: rest => valueHasNul item || listHasNul rest

def itemsHaveNul : List (String × Value) → Bool
  | [] => false
  | (key, item) :: rest => hasNul key || valueHasNul item || itemsHaveNul rest

end

/-- A `Jsonb` parameter of a statement. -/
def checkJsonb (body : Document) : Except PyError Unit :=
  if itemsHaveNul body then throw (.databaseError "UntranslatableCharacter") else pure ()

/-! ## Writing -/

namespace PutArgs

variable (env : PyEnv) (args : PutArgs)

/-- `{**_json_safe(body), "id": resource_id}`. -/
def safeNormalized : Document :=
  docWith (Value.jsonSafeItems env args.body) "id" (.str args.resourceId)

def safeRequestHash : String :=
  env.digest (.dict [("kind", .str args.kind), ("resource_id", .str args.resourceId),
    ("body", .dict (args.safeNormalized env))])

def recordKey : String × String := (args.tenantId, args.idempotencyKey)

end PutArgs

/-- `_response`. -/
def responseOf (resource : StoredResource) : Document :=
  [("kind", .str resource.kind), ("id", .str resource.id), ("tenant_id", .str resource.tenantId),
    ("version", .int resource.version), ("etag", .str resource.etag), ("body", .dict resource.body)]

/-- `dict(value)` of a dictionary. -/
def asDict : Value → Except PyError Document
  | .dict items => pure items
  | _ => throw .typeError

/-- `_from_response`. -/
def fromResponse (env : PyEnv) (response : Document) : Except PyError StoredResource := do
  let kind := env.str (← docItem response "kind")
  let id := env.str (← docItem response "id")
  let tenantId := env.str (← docItem response "tenant_id")
  let version ← env.int (← docItem response "version")
  let etag := env.str (← docItem response "etag")
  let body ← asDict (← docItem response "body")
  pure ⟨kind, id, tenantId, version, etag, body⟩

/-- The resource a put writes over the row `previous`. -/
def writtenRow (env : PyEnv) (args : PutArgs) (previous : Option ResourceRow) : StoredResource :=
  let version := match previous with
    | some row => row.version + 1
    | none => 1
  ⟨args.kind, args.resourceId, args.tenantId, version,
    etagOf env args.tenantId args.kind version (args.safeNormalized env), args.safeNormalized env⟩

/-- `if previous and if_match != previous["etag"]`. -/
def staleMatch (args : PutArgs) (previous : Option ResourceRow) : Bool :=
  previous.any fun row => args.ifMatch ≠ some row.etag

namespace Tables

/-- The three inserts. -/
def insert (tables : Tables) (args : PutArgs) (resource : StoredResource) (record : RecordRow) :
    Tables where
  resources := tables.resources.set args.key ⟨resource.version, resource.etag, resource.body⟩
  versions := tables.versions.set
    (args.tenantId, args.kind, args.resourceId, resource.version) ⟨resource.etag, resource.body⟩
  records := tables.records.set args.recordKey record

end Tables

end ComputeWeaver.Api
