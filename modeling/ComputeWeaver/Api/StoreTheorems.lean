/-
Api.StoreTheorems — versions, replays and tenants of the
in-process resource store.

One invariant carries the versions: `Consistent` says that the two tables of
resources fit (`Lib.Versioned`) and that names are stored with what they name.
Replays need the past of the run as well: a record of an idempotency key was
left by the first put that returned with that key (`firstPut_of_record`), which
is an induction on the run from its end.
-/
import ComputeWeaver.Api.Store
import ComputeWeaver.Lib.Run
import ComputeWeaver.Lib.Versioned

namespace ComputeWeaver.Api

open Lib Dict List ResourceStore

/-- Where a version of a resource is stored. -/
def versionAddress (key : String × String × String) (version : Int) :
    String × String × String × Int :=
  (key.1, key.2.1, key.2.2, version)

theorem versionAddress_injective (key : String × String × String) (version : Int)
    (key' : String × String × String) (version' : Int)
    (h : versionAddress key version = versionAddress key' version') :
    key = key' ∧ version = version' := by
  obtain ⟨tenantId, kind, id⟩ := key
  obtain ⟨tenantId', kind', id'⟩ := key'
  simp only [versionAddress, Prod.mk.injEq] at h
  obtain ⟨rfl, rfl, rfl, rfl⟩ := h
  exact ⟨rfl, rfl⟩

namespace ResourceStore

variable {env : PyEnv} {store store' : ResourceStore} {args : PutArgs} {resource : StoredResource}

/-! ## One put -/

theorem step_of_ok (h : store.put env args = .ok (resource, store')) :
    store.step env args = store' := by
  simp only [step, h]

theorem step_of_error {e : PyError} (h : store.put env args = .error e) :
    store.step env args = store := by
  simp only [step, h]

variable {recorded : StoredResource} {version : Int}

theorem put_of_same_record
    (hkey : store.idempotency.get? (args.tenantId, args.idempotencyKey) =
      some (args.requestHash env, recorded)) : store.put env args = .ok (recorded, store) := by
  unfold put
  simp [hkey]

variable {hash tenantId kind id : String} {key : String}

theorem put_of_other_record
    (hkey : store.idempotency.get? (args.tenantId, args.idempotencyKey) = some (hash, recorded))
    (hhash : args.requestHash env ≠ hash) : ∃ e, store.put env args = .error e := by
  unfold put
  simp [hkey, hhash]

theorem put_of_record (env : PyEnv) (args : PutArgs)
    (hkey : store.idempotency.get? (args.tenantId, args.idempotencyKey) = some (hash, recorded)) :
    (∃ e, store.put env args = .error e) ∨ store.put env args = .ok (recorded, store) := by
  by_cases hhash : args.requestHash env = hash
  · exact .inr (put_of_same_record (hhash ▸ hkey))
  · exact .inl (put_of_other_record hkey hhash)

/-- A put under a new key that presents the etag of the stored version writes
the next one. -/
theorem put_of_new_key (env : PyEnv) (args : PutArgs)
    (hkey : store.idempotency.get? (args.tenantId, args.idempotencyKey) = none)
    (hmatch : ∀ previous, store.items.get? args.key = some previous →
      args.ifMatch = some previous.etag) :
    ∃ store', store.put env args = .ok (written env args (store.items.get? args.key), store') ∧
      store'.items = store.items.set args.key (written env args (store.items.get? args.key)) := by
  have hpass : (store.items.get? args.key).any
      (fun previous => args.ifMatch ≠ some previous.etag) = false := by
    rw [Option.any_eq_false]
    intro previous hprevious
    simpa using hmatch previous hprevious
  unfold put
  simp only [hkey, hpass, Bool.false_eq_true, if_false]
  exact ⟨_, rfl, rfl⟩

theorem written_version (env : PyEnv) :
    (written env args (store.items.get? args.key)).version =
      lastVersion StoredResource.version store.items args.key + 1 := by
  unfold written lastVersion
  cases store.items.get? args.key with
  | none => rfl
  | some previous => rfl

/-! ## The invariant -/

/-- The versions of each resource are `1 … n`, and every version carries the
names it is stored under. -/
structure Consistent (store : ResourceStore) : Prop where
  versioned : Versioned versionAddress StoredResource.version (fun resource => resource)
    store.items store.versions
  named : ∀ tenantId kind id version resource,
    store.versions.get? (tenantId, kind, id, version) = some resource →
      resource.tenantId = tenantId ∧ resource.kind = kind ∧ resource.id = id ∧
        resource.version = version

theorem consistent_empty : Consistent empty where
  versioned := .empty _ _ _
  named := by simp [empty]

theorem Consistent.current (hc : Consistent store)
    (h : store.items.get? (tenantId, kind, id) = some resource) :
    store.versions.get? (tenantId, kind, id, resource.version) = some resource :=
  hc.versioned.current _ _ h

/-- The two tables of a store that hold a resource, after one more version of
it. -/
def extended (store : ResourceStore) (args : PutArgs) (resource : StoredResource) :
    ResourceStore :=
  { store with
    items := store.items.set args.key resource
    versions := store.versions.set (versionAddress args.key resource.version) resource }

theorem Consistent.extended (hc : Consistent store)
    (hversion : resource.version = lastVersion StoredResource.version store.items args.key + 1)
    (hnamed : resource.tenantId = args.tenantId ∧ resource.kind = args.kind ∧
      resource.id = args.resourceId) : Consistent (store.extended args resource) where
  versioned := hc.versioned.set versionAddress_injective hversion
  named := by
    intro tenantId kind id version other hget
    simp only [ResourceStore.extended, get?_set] at hget
    split at hget
    · rename_i heq
      cases heq
      cases hget
      exact ⟨hnamed.1, hnamed.2.1, hnamed.2.2, rfl⟩
    · exact hc.named tenantId kind id version other hget

theorem PutEffect.consistent (h : PutEffect env store args resource store')
    (hc : Consistent store) : Consistent store' := by
  cases h with
  | replayed => exact hc
  | stored =>
    have hext : Consistent (store.extended args (written env args (store.items.get? args.key))) :=
      hc.extended (written_version env) ⟨rfl, rfl, rfl⟩
    exact ⟨hext.versioned, hext.named⟩

theorem Consistent.step (hc : Consistent store) : Consistent (store.step env args) := by
  cases h : store.put env args with
  | error e => rwa [step_of_error h]
  | ok out =>
    obtain ⟨resource, store'⟩ := out
    rw [step_of_ok h]
    exact (put_effect h).consistent hc

theorem run_consistent (env : PyEnv) (puts : List PutArgs) :
    Consistent (run (step env) empty puts) :=
  run_invariant (fun _ _ hc => hc.step) puts empty consistent_empty

/-! ## History -/

theorem mem_versionNumbers :
    version ∈ store.versionNumbers kind id tenantId ↔
      ∃ resource, store.versions.get? (tenantId, kind, id, version) = some resource := by
  rw [← mem_keys_iff]
  simp only [versionNumbers, mem_map, mem_filter, Bool.and_eq_true, decide_eq_true_eq]
  constructor
  · rintro ⟨⟨_, _, _, _⟩, ⟨hmem, ⟨rfl, rfl⟩, rfl⟩, rfl⟩
    exact hmem
  · intro hmem
    exact ⟨_, ⟨hmem, ⟨rfl, rfl⟩, rfl⟩, rfl⟩

theorem versionNumbers_nodup (store : ResourceStore) (kind id tenantId : String) :
    (store.versionNumbers kind id tenantId).Nodup := by
  refine List.Nodup.map_on ?_ (store.versions.nodup.filter _)
  rintro ⟨t, k, i, v⟩ ha ⟨t', k', i', v'⟩ hb heq
  simp only [mem_filter, Bool.and_eq_true, decide_eq_true_eq] at ha hb
  obtain ⟨-, ⟨rfl, rfl⟩, rfl⟩ := ha
  obtain ⟨-, ⟨rfl, rfl⟩, rfl⟩ := hb
  rw [show v = v' from heq]

theorem Consistent.sorted_versionNumbers (hc : Consistent store) (kind id tenantId : String) :
    pySorted (fun a b => decide (a ≤ b)) (store.versionNumbers kind id tenantId) =
      upTo (lastVersion StoredResource.version store.items (tenantId, kind, id)) := by
  have hordered := upTo_strictlyIncreasing
    (lastVersion StoredResource.version store.items (tenantId, kind, id))
  refine pySorted_eq_of_perm ?_ (hordered.imp fun h => Int.le_of_lt h)
  refine (perm_ext_iff_of_nodup (store.versionNumbers_nodup kind id tenantId)
    (hordered.imp fun h => Int.ne_of_lt h)).mpr ?_
  intro version
  rw [mem_versionNumbers, mem_upTo]
  exact hc.versioned.versions (tenantId, kind, id) version

theorem getVersion_eq_ok :
    store.getVersion kind id tenantId version = .ok resource ↔
      store.versions.get? (tenantId, kind, id, version) = some resource :=
  getItem_eq_ok

theorem get_eq_ok :
    store.get kind id tenantId = .ok resource ↔
      store.items.get? (tenantId, kind, id) = some resource :=
  getItem_eq_ok

theorem mapM_getVersion (hc : Consistent store) (numbers : List Int)
    (h : ∀ version ∈ numbers, 1 ≤ version ∧
      version ≤ lastVersion StoredResource.version store.items (tenantId, kind, id)) :
    ∃ resources, numbers.mapM (store.getVersion kind id tenantId) = .ok resources ∧
      resources.map StoredResource.version = numbers := by
  induction numbers with
  | nil => exact ⟨[], rfl, rfl⟩
  | cons version rest ih =>
    obtain ⟨resources, hrest, hversions⟩ := ih fun v hv => h v (mem_cons_of_mem _ hv)
    obtain ⟨resource, hresource⟩ :=
      (hc.versioned.versions (tenantId, kind, id) version).mpr (h version mem_cons_self)
    obtain ⟨-, -, -, hversion⟩ := hc.named tenantId kind id version resource hresource
    refine ⟨resource :: resources, ?_, by simp [hversion, hversions]⟩
    rw [mapM_cons, getVersion_eq_ok.mpr hresource, hrest]
    rfl

/-! ## Replays -/

/-- Some put of the run returned this resource, and it is the first that
returned with this tenant and key. -/
def FirstPut (env : PyEnv) (puts : List PutArgs) (tenantId key : String)
    (resource : StoredResource) : Prop :=
  ∃ before first after, puts = before ++ first :: after ∧
    first.tenantId = tenantId ∧ first.idempotencyKey = key ∧
    (run (step env) empty before).idempotency.get? (tenantId, key) = none ∧
    ∃ store', (run (step env) empty before).put env first = .ok (resource, store')

theorem FirstPut.append {puts : List PutArgs}
    (h : FirstPut env puts tenantId key resource) (more : List PutArgs) :
    FirstPut env (puts ++ more) tenantId key resource := by
  obtain ⟨before, first, after, hputs, hfirst⟩ := h
  exact ⟨before, first, after ++ more, by simp [hputs], hfirst⟩

theorem step_idempotency (env : PyEnv) (store : ResourceStore) (args : PutArgs)
    (tenantId key : String) :
    (store.step env args).idempotency.get? (tenantId, key) =
        store.idempotency.get? (tenantId, key) ∨
      (args.tenantId = tenantId ∧ args.idempotencyKey = key ∧
        store.idempotency.get? (tenantId, key) = none ∧
        ∃ resource store', store.put env args = .ok (resource, store') ∧
          (store.step env args).idempotency.get? (tenantId, key) =
            some (args.requestHash env, resource)) := by
  cases h : store.put env args with
  | error e => exact .inl (by rw [step_of_error h])
  | ok out =>
    obtain ⟨resource, store'⟩ := out
    rw [step_of_ok h]
    cases put_effect h with
    | replayed => exact .inl rfl
    | stored hkey _ =>
      by_cases heq : (args.tenantId, args.idempotencyKey) = (tenantId, key)
      · cases heq
        exact .inr ⟨rfl, rfl, hkey, _, _, rfl, get?_set_self _ _ _⟩
      · exact .inl (get?_set_ne _ _ heq)

theorem firstPut_of_record (env : PyEnv) (puts : List PutArgs)
    (h : (run (step env) empty puts).idempotency.get? (tenantId, key) = some (hash, resource)) :
    FirstPut env puts tenantId key resource := by
  -- from the end of the run: the last put left the record, or it was there
  induction puts using List.reverseRecOn with
  | nil => simp [empty] at h
  | append_singleton puts args ih =>
    rw [run_append, run_cons, run_nil] at h
    rcases step_idempotency env (run (step env) empty puts) args tenantId key with
      hsame | ⟨htenant, hkey, hnone, resource', store', hput, hrecord⟩
    · exact (ih (hsame.symm.trans h)).append [args]
    · cases hrecord.symm.trans h
      exact ⟨puts, args, [], rfl, htenant, hkey, hnone, store', hput⟩

/-! ## Tenants -/

/-- What a tenant can read. -/
structure SameFor (tenantId : String) (store store' : ResourceStore) : Prop where
  get : ∀ kind id, store'.get kind id tenantId = store.get kind id tenantId
  list : ∀ kind, store'.list kind tenantId = store.list kind tenantId
  getVersion : ∀ kind id version,
    store'.getVersion kind id tenantId version = store.getVersion kind id tenantId version
  history : ∀ kind id, store'.history kind id tenantId = store.history kind id tenantId

theorem SameFor.refl (tenantId : String) (store : ResourceStore) : SameFor tenantId store store :=
  ⟨fun _ _ => rfl, fun _ => rfl, fun _ _ _ => rfl, fun _ _ => rfl⟩

theorem sameFor_extended (hne : tenantId ≠ args.tenantId) :
    SameFor tenantId store (store.extended args resource) := by
  have hversion : ∀ kind id version,
      (store.extended args resource).getVersion kind id tenantId version =
        store.getVersion kind id tenantId version := by
    intro kind id version
    simp only [getVersion, getItem, extended]
    rw [get?_set_ne]
    intro heq
    cases heq
    exact hne rfl
  refine ⟨?_, ?_, hversion, ?_⟩
  · intro kind id
    simp only [get, getItem, extended]
    rw [get?_set_ne]
    intro heq
    cases heq
    exact hne rfl
  · intro kind
    simp only [list, extended, Dict.set, PutArgs.key]
    rw [filter_assocSet, if_neg] <;> simp [Ne.symm hne]
  · intro kind id
    have hnumbers : (store.extended args resource).versionNumbers kind id tenantId =
        store.versionNumbers kind id tenantId := by
      simp only [versionNumbers, extended, Dict.keys, Dict.set, List.filter_map, versionAddress,
        PutArgs.key]
      rw [filter_assocSet, if_neg] <;> simp [Ne.symm hne]
    simp only [history, hnumbers, hversion]

theorem PutEffect.sameFor (h : PutEffect env store args resource store')
    (hne : tenantId ≠ args.tenantId) : SameFor tenantId store store' := by
  cases h with
  | replayed => exact .refl tenantId store
  | stored =>
    have hext : SameFor tenantId store
        (store.extended args (written env args (store.items.get? args.key))) :=
      sameFor_extended hne
    exact ⟨hext.get, hext.list, hext.getVersion, hext.history⟩

theorem sameFor_step (hne : tenantId ≠ args.tenantId) :
    SameFor tenantId store (store.step env args) := by
  cases h : store.put env args with
  | error e =>
    rw [step_of_error h]
    exact .refl tenantId store
  | ok out =>
    obtain ⟨resource, store'⟩ := out
    rw [step_of_ok h]
    exact (put_effect h).sameFor hne

/-! ## Every sequence of puts -/

/-- The versions of a resource are `1 … n`, in the history too, and what is
current is the last of them. -/
structure Contiguous (store : ResourceStore) (tenantId kind id : String) (n : Int) : Prop where
  nonneg : 0 ≤ n
  versions : ∀ version, (∃ resource, store.getVersion kind id tenantId version = .ok resource) ↔
    1 ≤ version ∧ version ≤ n
  history : ∃ resources, store.history kind id tenantId = .ok resources ∧
    resources.map StoredResource.version = upTo n
  absent : n = 0 → ∃ e, store.get kind id tenantId = .error e
  current : 0 < n → ∃ resource, store.get kind id tenantId = .ok resource ∧
    resource.version = n ∧ store.getVersion kind id tenantId n = .ok resource

theorem Consistent.contiguous (hc : Consistent store) (tenantId kind id : String) :
    Contiguous store tenantId kind id
      (lastVersion StoredResource.version store.items (tenantId, kind, id)) where
  nonneg := hc.versioned.lastVersion_nonneg _
  versions := by
    intro version
    simp only [getVersion_eq_ok]
    exact hc.versioned.versions (tenantId, kind, id) version
  history := by
    rw [history, hc.sorted_versionNumbers]
    exact mapM_getVersion hc _ fun version hversion => mem_upTo.mp hversion
  absent := by
    intro hzero
    cases hget : store.items.get? (tenantId, kind, id) with
    | none => exact ⟨.keyError id, by simp [get, getItem, hget]⟩
    | some resource =>
      have hpositive := hc.versioned.positive _ _ hget
      rw [lastVersion_of_get hget] at hzero
      omega
  current := by
    intro hpos
    cases hget : store.items.get? (tenantId, kind, id) with
    | none => simp [lastVersion_of_none hget] at hpos
    | some resource =>
      refine ⟨resource, get_eq_ok.mpr hget, (lastVersion_of_get hget).symm, ?_⟩
      rw [lastVersion_of_get hget]
      exact getVersion_eq_ok.mpr (hc.current hget)

theorem Consistent.presented (hc : Consistent store)
    (hkey : store.idempotency.get? (args.tenantId, args.idempotencyKey) = none)
    (h : store.put env args = .ok (resource, store')) :
    (resource.version = 1 ∧ ∃ e, store.get args.kind args.resourceId args.tenantId = .error e) ∨
    ∃ previous,
      store.getVersion args.kind args.resourceId args.tenantId (resource.version - 1) =
        .ok previous ∧ args.ifMatch = some previous.etag := by
  cases put_effect h with
  | replayed resource hrecord => cases hkey.symm.trans hrecord
  | stored _ hmatch =>
    rw [written_version]
    cases hget : store.items.get? args.key with
    | none =>
      have hzero : lastVersion StoredResource.version store.items args.key = 0 :=
        lastVersion_of_none hget
      exact .inl ⟨by omega, (hc.contiguous _ _ _).absent hzero⟩
    | some previous =>
      refine .inr ⟨previous, ?_, hmatch previous hget⟩
      rw [lastVersion_of_get hget, Int.add_sub_cancel]
      exact getVersion_eq_ok.mpr (hc.current hget)

end ResourceStore

end ComputeWeaver.Api
