/-
Api.StoredBodies — what a store keeps of a body
(`apps/api/store.py`).

The in-process store keeps the objects it is given, the one on Postgres their
JSON: `_json_safe` writes a decimal and a datetime as text. `BodyForm` says
which, and what a repository reads back is stated for both.

Of the databases' own limits (text without NUL, tenant ids that are not empty)
nothing is said here.
-/
import ComputeWeaver.Api.Store
import ComputeWeaver.Lib.Json

namespace ComputeWeaver.Api

open Lib List

/-- The objects themselves, or their JSON. -/
inductive BodyForm where
  | objects
  | json
  deriving DecidableEq, Repr

namespace BodyForm

variable (env : PyEnv)

def keepValue : BodyForm → Value → Value
  | objects, value => value
  | json, value => value.jsonSafe env

def keep : BodyForm → Document → Document
  | objects, body => body
  | json, body => Value.jsonSafeItems env body

variable (form : BodyForm)

theorem assocGet_keep (body : Document) (k : String) :
    assocGet (form.keep env body) k = (assocGet body k).map (form.keepValue env) := by
  cases form with
  | objects => exact (congrFun Option.map_id _).symm
  | json => exact Value.assocGet_jsonSafeItems env body k

@[simp] theorem keepValue_none : form.keepValue env .none = .none := by cases form <;> rfl

@[simp] theorem keepValue_int (i : Int) : form.keepValue env (.int i) = .int i := by
  cases form <;> rfl

@[simp] theorem keepValue_str (s : String) : form.keepValue env (.str s) = .str s := by
  cases form <;> rfl

@[simp] theorem keepValue_dict (items : Document) :
    form.keepValue env (.dict items) = .dict (form.keep env items) := by
  cases form <;> rfl

@[simp] theorem keepValue_list (items : List Value) :
    form.keepValue env (.list items) = .list (items.map (form.keepValue env)) := by
  cases form with
  | objects => exact congrArg Value.list (map_id' items).symm
  | json =>
    have hlist : ∀ items : List Value, Value.jsonSafeList env items =
        items.map (Value.jsonSafe env) := by
      intro items
      induction items with
      | nil => rfl
      | cons item rest ih => rw [Value.jsonSafeList, ih, map_cons]
    exact congrArg Value.list (hlist items)

end BodyForm

/-- `Decimal(str(d)) == d`. -/
def DecimalText (env : PyEnv) : Prop :=
  ∀ q : ℚ, env.parseDecimal (env.text (.decimal q)) = some q

theorem decimalOfText_str {env : PyEnv} (h : DecimalText env) (q : ℚ) :
    env.decimalOfText (.str (env.str (.decimal q))) = .ok q := by
  have hparse : env.parseDecimal (env.str (.str (env.str (.decimal q)))) = some q := h q
  rw [PyEnv.decimalOfText, hparse]
  · rfl
  all_goals simp

theorem decimalOfText_keepValue {env : PyEnv} (h : DecimalText env) (form : BodyForm) (q : ℚ) :
    env.decimalOfText (form.keepValue env (.decimal q)) = .ok q := by
  cases form with
  | objects => rfl
  | json => exact decimalOfText_str h q

/-- For concrete runs: a text that shows numerator and denominator in unary. -/
def unaryText (q : ℚ) : String :=
  String.ofList (List.replicate q.num.toNat '+' ++ List.replicate (-q.num).toNat '-' ++
    List.replicate q.den '/')

def parseUnary (text : String) : ℚ :=
  mkRat (text.toList.count '+' - text.toList.count '-') (text.toList.count '/')

theorem parseUnary_unaryText (q : ℚ) : parseUnary (unaryText q) = q := by
  have hplus : (unaryText q).toList.count '+' = q.num.toNat := by
    simp [unaryText, count_replicate]
  have hminus : (unaryText q).toList.count '-' = (-q.num).toNat := by
    simp [unaryText, count_replicate]
  have hslash : (unaryText q).toList.count '/' = q.den := by
    simp [unaryText, count_replicate]
  have hnum : (q.num.toNat : Int) - ((-q.num).toNat : Int) = q.num := by omega
  rw [parseUnary, hplus, hminus, hslash, hnum, Rat.mkRat_self]

/-- An environment in which every decimal has a text of its own. -/
def unaryEnv : PyEnv :=
  { taggingEnv with
    text := fun value => match value with
      | .decimal q => unaryText q
      | value => value.render
    parseDecimal := fun text => some (parseUnary text) }

theorem unaryEnv_decimalText : DecimalText unaryEnv :=
  fun q => congrArg some (parseUnary_unaryText q)

/-! ## Puts -/

namespace ResourceStore

/-- `put` of a store that keeps bodies in one form. -/
def putAs (form : BodyForm) (env : PyEnv) (store : ResourceStore) (args : PutArgs) :
    Except PyError (StoredResource × ResourceStore) :=
  store.put env { args with body := form.keep env args.body }

/-- What a put with a new key does to a store, if its `If-Match` names the
resource that is there. -/
structure Wrote (form : BodyForm) (env : PyEnv) (store : ResourceStore) (args : PutArgs)
    (resource : StoredResource) (store' : ResourceStore) : Prop where
  id : resource.id = args.resourceId
  tenantId : resource.tenantId = args.tenantId
  body : resource.body = docWith (form.keep env args.body) "id" (.str args.resourceId)
  item : store'.items.get? args.key = some resource
  items : ∀ key, key ≠ args.key → store'.items.get? key = store.items.get? key
  records : ∀ key, key ≠ (args.tenantId, args.idempotencyKey) →
    store'.idempotency.get? key = store.idempotency.get? key

theorem putAs_new (form : BodyForm) (env : PyEnv) (store : ResourceStore) (args : PutArgs)
    (hkey : store.idempotency.get? (args.tenantId, args.idempotencyKey) = none)
    (hmatch : ∀ previous, store.items.get? args.key = some previous →
      args.ifMatch = some previous.etag) :
    ∃ resource store', store.putAs form env args = .ok (resource, store') ∧
      Wrote form env store args resource store' := by
  let kept : PutArgs := { args with body := form.keep env args.body }
  have hstale : (store.items.get? args.key).any
      (fun resource => decide (args.ifMatch ≠ some resource.etag)) = false := by
    cases hprevious : store.items.get? args.key with
    | none => rfl
    | some previous => simp [hmatch previous hprevious]
  -- the branch that writes
  have hput : store.putAs form env args = .ok (written env kept (store.items.get? args.key),
      { items := store.items.set args.key (written env kept (store.items.get? args.key))
        versions := store.versions.set (args.tenantId, args.kind, args.resourceId,
          (written env kept (store.items.get? args.key)).version)
          (written env kept (store.items.get? args.key))
        idempotency := store.idempotency.set (args.tenantId, args.idempotencyKey)
          (kept.requestHash env, written env kept (store.items.get? args.key)) }) := by
    rw [putAs, put]
    simp only [hkey]
    exact if_neg (by rw [Bool.not_eq_true]; exact hstale)
  refine ⟨_, _, hput, ?_⟩
  exact ⟨rfl, rfl, rfl, Dict.get?_set_self _ _ _, fun key hne => Dict.get?_set_ne _ _ hne.symm,
    fun key hne => Dict.get?_set_ne _ _ hne.symm⟩

end ResourceStore

end ComputeWeaver.Api
