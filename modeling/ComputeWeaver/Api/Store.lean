/-
Api.Store — the in-process resource store
(`apps/api/store.py`, `ResourceStore`).

`put` holds the store's lock throughout and raises before it writes
anything, so a put is one step that either returns the new store or leaves
it as it was. Three tables: the current resource of a key, every version
ever written, and the outcome of every idempotency key.

The etag of a version is a digest that covers the version number. That a
stale `If-Match` is refused rests on digests of different versions being
different, which is an assumption on `PyEnv.digest` (`EtagsDiffer`).
-/
import ComputeWeaver.Lib.Value

namespace ComputeWeaver.Api

open Lib

structure StoredResource where
  kind : String
  id : String
  tenantId : String
  version : Int
  etag : String
  body : Document

structure ResourceStore where
  items : Dict (String × String × String) StoredResource
  versions : Dict (String × String × String × Int) StoredResource
  idempotency : Dict (String × String) (String × StoredResource)

/-- The arguments of one `put`. -/
structure PutArgs where
  kind : String
  resourceId : String
  tenantId : String
  body : Document
  idempotencyKey : String
  ifMatch : Option String := none

namespace PutArgs

variable (env : PyEnv) (args : PutArgs)

def requestHash : String :=
  env.digest (.dict [("kind", .str args.kind), ("resource_id", .str args.resourceId),
    ("body", .dict args.body)])

def key : String × String × String := (args.tenantId, args.kind, args.resourceId)

/-- `{**body, "id": resource_id}`. -/
def normalized : Document := docWith args.body "id" (.str args.resourceId)

end PutArgs

def etagOf (env : PyEnv) (tenantId kind : String) (version : Int) (body : Document) : String :=
  env.digest (.dict [("tenant", .str tenantId), ("kind", .str kind), ("version", .int version),
    ("body", .dict body)])

namespace ResourceStore

def empty : ResourceStore := ⟨.empty, .empty, .empty⟩

/-- The resource a put writes over `previous`. -/
def written (env : PyEnv) (args : PutArgs) (previous : Option StoredResource) : StoredResource :=
  let version := match previous with
    | some resource => resource.version + 1
    | none => 1
  ⟨args.kind, args.resourceId, args.tenantId, version,
    etagOf env args.tenantId args.kind version args.normalized, args.normalized⟩

def put (env : PyEnv) (store : ResourceStore) (args : PutArgs) :
    Except PyError (StoredResource × ResourceStore) :=
  match store.idempotency.get? (args.tenantId, args.idempotencyKey) with
  | some (previousHash, resource) =>
      if args.requestHash env ≠ previousHash then
        throw (.valueError "idempotency key reused with different request")
      else pure (resource, store)
  | none =>
      let previous := store.items.get? args.key
      if previous.any (fun resource => args.ifMatch ≠ some resource.etag) then
        throw (.runtimeError "If-Match optimistic concurrency conflict")
      else
        let resource := written env args previous
        pure (resource,
          { items := store.items.set args.key resource
            versions := store.versions.set
              (args.tenantId, args.kind, args.resourceId, resource.version) resource
            idempotency := store.idempotency.set (args.tenantId, args.idempotencyKey)
              (args.requestHash env, resource) })

def get (store : ResourceStore) (kind resourceId tenantId : String) :
    Except PyError StoredResource :=
  store.items.getItem (tenantId, kind, resourceId) resourceId

/-- `list`: the resources of one kind, by id. -/
def list (store : ResourceStore) (kind tenantId : String) : List StoredResource :=
  pySorted (fun a b => decide (a.id ≤ b.id))
    ((store.items.entries.filter fun item => item.1.1 = tenantId && item.1.2.1 = kind).map
      Prod.snd)

/-- `get_version`. -/
def getVersion (store : ResourceStore) (kind resourceId tenantId : String) (version : Int) :
    Except PyError StoredResource :=
  store.versions.getItem (tenantId, kind, resourceId, version) resourceId

/-- The versions a resource has, in the order they were written. -/
def versionNumbers (store : ResourceStore) (kind resourceId tenantId : String) : List Int :=
  (store.versions.keys.filter fun key =>
    key.1 = tenantId && key.2.1 = kind && key.2.2.1 = resourceId).map fun key => key.2.2.2

/-- `history`. -/
def history (store : ResourceStore) (kind resourceId tenantId : String) :
    Except PyError (List StoredResource) :=
  (pySorted (fun a b => decide (a ≤ b)) (store.versionNumbers kind resourceId tenantId)).mapM
    fun version => store.getVersion kind resourceId tenantId version

/-- The store after a put, whether it returned or raised. -/
def step (env : PyEnv) (store : ResourceStore) (args : PutArgs) : ResourceStore :=
  match store.put env args with
  | .ok (_, store') => store'
  | .error _ => store

/-! ## What a put does -/

/-- The two ways a put returns: it replays its key, or it writes a new
version whose `If-Match` named the version before. -/
inductive PutEffect (env : PyEnv) (store : ResourceStore) (args : PutArgs) :
    StoredResource → ResourceStore → Prop
  | replayed (resource : StoredResource)
      (hkey : store.idempotency.get? (args.tenantId, args.idempotencyKey) =
        some (args.requestHash env, resource)) :
      PutEffect env store args resource store
  | stored (hkey : store.idempotency.get? (args.tenantId, args.idempotencyKey) = none)
      (hmatch : ∀ previous, store.items.get? args.key = some previous →
        args.ifMatch = some previous.etag) :
      PutEffect env store args (written env args (store.items.get? args.key))
        { items := store.items.set args.key (written env args (store.items.get? args.key))
          versions := store.versions.set (args.tenantId, args.kind, args.resourceId,
            (written env args (store.items.get? args.key)).version)
            (written env args (store.items.get? args.key))
          idempotency := store.idempotency.set (args.tenantId, args.idempotencyKey)
            (args.requestHash env, written env args (store.items.get? args.key)) }

theorem put_effect {env : PyEnv} {store store' : ResourceStore} {args : PutArgs}
    {resource : StoredResource} (h : put env store args = .ok (resource, store')) :
    PutEffect env store args resource store' := by
  unfold put at h
  split at h
  · rename_i previousHash old hkey
    split at h
    · cases h
    rename_i hhash
    cases h
    rw [not_not] at hhash
    exact .replayed resource (by rw [hkey, hhash])
  · rename_i hkey
    dsimp only at h
    split at h
    · cases h
    rename_i hmatch
    cases h
    refine .stored hkey ?_
    intro previous hprevious
    simpa [hprevious] using hmatch

end ResourceStore

def EtagsDiffer (env : PyEnv) : Prop :=
  ∀ (tenantId kind : String) (version version' : Int) (body body' : Document),
    version ≠ version' →
      etagOf env tenantId kind version body ≠ etagOf env tenantId kind version' body'

/-- A text that shows an integer in unary. -/
def unary (n : Int) : String :=
  String.ofList (List.replicate n.toNat '+' ++ List.replicate (-n).toNat '-')

theorem unary_injective {m n : Int} (h : unary m = unary n) : m = n := by
  have hlist := String.ofList_injective h
  have hplus := congrArg (List.count '+') hlist
  have hminus := congrArg (List.count '-') hlist
  simp [List.count_replicate] at hplus hminus
  omega

/-- The first and the second of January 2026, in microseconds. -/
def newYear : Int := 1767225600000000

def dayAfter : Int := 1767312000000000

/-- An environment for concrete runs: an etag shows the version, and the texts
that occur parse as what they say. -/
def taggingEnv : PyEnv :=
  { PyEnv.plain with
    digest := fun value => match value with
      | .dict [_, _, (_, .int version), _] => unary version
      | value => value.render
    text := fun value => match value with
      | .decimal _ => "0.01"
      | value => value.render
    parseDecimal := fun text => if text = "0.01" then some (1 / 100) else none
    parseTime := assocGet [("2026-01-01T00:00:00+00:00", .aware newYear),
      ("2026-01-02T00:00:00+00:00", .aware dayAfter)] }

theorem taggingEnv_etagsDiffer : EtagsDiffer taggingEnv :=
  fun _ _ _ _ _ _ hne h => hne (unary_injective h)

end ComputeWeaver.Api
