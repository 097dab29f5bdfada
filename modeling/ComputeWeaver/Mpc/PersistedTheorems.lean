/-
Mpc.PersistedTheorems — a persisted controller is a controller
that lives on.

The store holds the controller (`Holds`): the stored state is what the
controller would export, and no record has a number that is still to come. A
call whose keys are new keeps this and answers what the controller answers
(`Holds.cycle`); the run follows by `outputs_eq_of_simulation`.

That a decimal reads back from its text is the only assumption. Mathlib is
imported whole for `Int.toInt?_repr`, which no narrower module of it brings.
-/
import Mathlib
import ComputeWeaver.Mpc.Persisted
import ComputeWeaver.Mpc.RepositoryTheorems

namespace ComputeWeaver.Mpc

open Lib Workloads Scheduling Api MpcController List

/-! ## What is not persisted is not read -/

def MpcController.forget (controller : MpcController) : MpcController :=
  { controller with cycles := [] }

theorem cycle_forget (contentHash : ScheduleInput → String) (controller : MpcController)
    (call : CycleCall) :
    Prod.map id forget <$> controller.forget.cycle contentHash call =
      Prod.map id forget <$> controller.cycle contentHash call := by
  by_cases hexecuted : (call.request.slots.any
      fun slot => decide (slot.index ∈ controller.executedSlots)) = true
  · have hrebuilt : controller.forget.cycle contentHash call =
        throw (.valueError "already executed intervals cannot be rewritten") := if_pos hexecuted
    have hcycle : controller.cycle contentHash call =
        throw (.valueError "already executed intervals cannot be rewritten") := if_pos hexecuted
    rw [hrebuilt, hcycle]
  · refine (congrArg _ (if_neg hexecuted)).trans (Eq.trans ?_ (congrArg _ (if_neg hexecuted)).symm)
    cases Optimization.optimize contentHash call.request call.clock call.timeoutSeconds with
    | error e => rfl
    | ok result =>
      simp only [ok_bind, forget]
      cases choosePlan controller.lastSafe
          (reconcile call.plannedProgress call.observed).material
          (qualityGate call.observed result) <;> rfl

/-- The two cycles end alike. -/
theorem cycle_forget_cases (contentHash : ScheduleInput → String) (controller : MpcController)
    (call : CycleCall) :
    (∃ e, controller.forget.cycle contentHash call = .error e ∧
      controller.cycle contentHash call = .error e) ∨
    ∃ cycle rebuilt controller', controller.forget.cycle contentHash call = .ok (cycle, rebuilt) ∧
      controller.cycle contentHash call = .ok (cycle, controller') ∧
      rebuilt.forget = controller'.forget := by
  have h := cycle_forget contentHash controller call
  cases hrebuilt : controller.forget.cycle contentHash call with
  | error e =>
    rw [hrebuilt] at h
    cases hcycle : controller.cycle contentHash call with
    | error e' =>
      rw [hcycle] at h
      cases h
      exact .inl ⟨e, rfl, rfl⟩
    | ok out =>
      rw [hcycle] at h
      cases h
  | ok out =>
    rw [hrebuilt] at h
    cases hcycle : controller.cycle contentHash call with
    | error e =>
      rw [hcycle] at h
      cases h
    | ok out' =>
      rw [hcycle] at h
      obtain ⟨hout, hforget⟩ := Prod.mk.inj (Except.ok.inj h)
      exact .inr ⟨out.1, out.2, out'.2, rfl, by rw [show out.1 = out'.1 from hout], hforget⟩

/-! ## What the store holds -/

namespace MpcRepository

variable (form : BodyForm) (repo : MpcRepository)

def recordKey (number : Int) : String × String × String :=
  (repo.tenantId, "mpc_cycle", repo.controllerId ++ "-" ++ toString number)

/-- No call has used the keys of these calls, and no two of them share one. -/
structure FreshKeys (store : ResourceStore) (calls : List RepositoryCall) : Prop where
  distinct : (calls.map (·.idempotencyKey)).Nodup
  state : ∀ call ∈ calls,
    store.idempotency.get? (repo.tenantId, "mpc-state:" ++ call.idempotencyKey) = none
  record : ∀ call ∈ calls,
    store.idempotency.get? (repo.tenantId, "mpc-cycle:" ++ call.idempotencyKey) = none

/-- Nothing of the controller has been stored. -/
structure Unused (store : ResourceStore) : Prop where
  state : store.items.get? repo.key = none
  records : ∀ number, store.items.get? (repo.recordKey number) = none
  implicit : store.idempotency.get?
    (repo.tenantId, "mpc-create:" ++ ("implicit-" ++ repo.controllerId)) = none

/-- The stored state is that of the controller, and the numbers to come have
no record. -/
structure Stored (store : ResourceStore) (controller : MpcController)
    (resource : StoredResource) : Prop where
  state : store.items.get? repo.key = some resource
  body : resource.body =
    docWith (form.keep repo.env (controller.exportState repo.env)) "id" (.str repo.controllerId)
  records : ∀ number, controller.cycleSequence < number →
    store.items.get? (repo.recordKey number) = none

def Holds (store : ResourceStore) (controller : MpcController) : Prop :=
  (repo.Unused store ∧ controller.forget = {}) ∨
    ∃ resource, repo.Stored form store controller resource

variable {form repo} {store store' : ResourceStore} {calls : List RepositoryCall}
  {call : RepositoryCall} {controller : MpcController} {resource : StoredResource}

theorem key_ne_recordKey (number : Int) : repo.key ≠ repo.recordKey number := by
  simp [key, recordKey]

theorem recordKey_injective {m n : Int} (h : repo.recordKey m = repo.recordKey n) : m = n := by
  have hid : repo.controllerId ++ "-" ++ toString m = repo.controllerId ++ "-" ++ toString n :=
    (Prod.mk.inj (Prod.mk.inj h).2).2
  have hlist := congrArg String.toList hid
  simp only [String.toList_append, append_cancel_left_eq, String.toList_inj] at hlist
  -- the decimal text of a number reads back
  have hread := congrArg String.toInt? hlist
  simpa only [Int.toString_eq_repr, Int.toInt?_repr, Option.some.injEq] using hread

theorem createKey_ne (a b : String) :
    "mpc-create:" ++ a ≠ "mpc-state:" ++ b ∧ "mpc-create:" ++ a ≠ "mpc-cycle:" ++ b := by
  constructor
  all_goals
    intro h
    have hlist := congrArg String.toList h
    simp at hlist

theorem recordKeyOf_injective {a b : String} (h : "mpc-cycle:" ++ a = "mpc-cycle:" ++ b) :
    a = b := by
  have hlist := congrArg String.toList h
  simpa [String.toList_append, String.toList_inj] using hlist

theorem FreshKeys.mono (h : repo.FreshKeys store calls)
    (hstate : ∀ call ∈ calls,
      store'.idempotency.get? (repo.tenantId, "mpc-state:" ++ call.idempotencyKey) =
        store.idempotency.get? (repo.tenantId, "mpc-state:" ++ call.idempotencyKey))
    (hrecord : ∀ call ∈ calls,
      store'.idempotency.get? (repo.tenantId, "mpc-cycle:" ++ call.idempotencyKey) =
        store.idempotency.get? (repo.tenantId, "mpc-cycle:" ++ call.idempotencyKey)) :
    repo.FreshKeys store' calls where
  distinct := h.distinct
  state := fun call hcall => (hstate call hcall).trans (h.state call hcall)
  record := fun call hcall => (hrecord call hcall).trans (h.record call hcall)

theorem FreshKeys.tail (h : repo.FreshKeys store (call :: calls)) : repo.FreshKeys store calls where
  distinct := (nodup_cons.mp h.distinct).2
  state := fun other hother => h.state other (mem_cons_of_mem call hother)
  record := fun other hother => h.record other (mem_cons_of_mem call hother)

theorem FreshKeys.ne (h : repo.FreshKeys store (call :: calls)) {other : RepositoryCall}
    (hother : other ∈ calls) : other.idempotencyKey ≠ call.idempotencyKey := by
  intro heq
  exact (nodup_cons.mp h.distinct).1 (mem_map.mpr ⟨other, hother, heq⟩)

/-! ## One call -/

theorem Unused.create (form : BodyForm) (h : repo.Unused store) (penalty : ℚ) {createKey : String}
    (hkey : store.idempotency.get? (repo.tenantId, "mpc-create:" ++ createKey) = none)
    (hkeys : repo.FreshKeys store calls) :
    ∃ resource store', store.putAs form repo.env (repo.createArgs penalty createKey) =
        .ok (resource, store') ∧
      repo.Stored form store' { stabilityPenalty := penalty } resource ∧
      repo.FreshKeys store' calls := by
  have hmatch : ∀ previous, store.items.get? (repo.createArgs penalty createKey).key =
      some previous → (repo.createArgs penalty createKey).ifMatch = some previous.etag := by
    intro previous hprevious
    cases h.state.symm.trans hprevious
  obtain ⟨resource, store', hput, hwrote⟩ :=
    ResourceStore.putAs_new form repo.env store (repo.createArgs penalty createKey) hkey hmatch
  refine ⟨resource, store', hput, ⟨hwrote.item, hwrote.body, ?_⟩, hkeys.mono ?_ ?_⟩
  · intro number _
    rw [hwrote.items _ (key_ne_recordKey number).symm]
    exact h.records number
  · intro call _
    exact hwrote.records _ fun heq => (createKey_ne _ _).1 (Prod.mk.inj heq).2.symm
  · intro call _
    exact hwrote.records _ fun heq => (createKey_ne _ _).2 (Prod.mk.inj heq).2.symm

theorem Holds.loadOrCreate (h : repo.Holds form store controller)
    (hkeys : repo.FreshKeys store calls) :
    ∃ resource store', repo.loadOrCreate form store = (.ok resource, store') ∧
      repo.Stored form store' controller resource ∧ repo.FreshKeys store' calls := by
  rcases h with ⟨hunused, hnew⟩ | ⟨resource, hstored⟩
  · obtain ⟨resource, store', hput, hstored, hkeys'⟩ := hunused.create form (1 / 100)
      hunused.implicit hkeys
    have hload : repo.load store = .error (.keyError repo.controllerId) := by
      cases hload : repo.load store with
      | error e => rw [(load_error hload).2]
      | ok resource => cases hunused.state.symm.trans (load_eq_ok.mp hload)
    refine ⟨resource, store', ?_, ?_, hkeys'⟩
    · simp only [MpcRepository.loadOrCreate, hload, hput, load_eq_ok.mpr hstored.state]
    · -- a new controller exports what an empty one does
      have hexport : controller.exportState repo.env =
          exportState repo.env { stabilityPenalty := 1 / 100 } :=
        show controller.forget.exportState repo.env = _ by rw [hnew]
      have hsequence : controller.cycleSequence = 0 := congrArg cycleSequence hnew
      exact ⟨hstored.state, hexport ▸ hstored.body, hsequence ▸ hstored.records⟩
  · refine ⟨resource, store, ?_, hstored, hkeys⟩
    simp only [MpcRepository.loadOrCreate, load_eq_ok.mpr hstored.state]

theorem Stored.save (h : repo.Stored form store controller resource)
    (hkeys : repo.FreshKeys store (call :: calls)) {cycle : MpcCycle} {controller' : MpcController}
    (hid : cycle.id = controller.cycleSequence + 1)
    (hsequence : controller'.cycleSequence = controller.cycleSequence + 1) :
    ∃ store' resource', repo.save form store call resource controller' cycle =
        (.ok cycle, store') ∧
      repo.Stored form store' controller' resource' ∧ repo.FreshKeys store' calls := by
  have hmatch : ∀ previous, store.items.get? repo.key = some previous →
      some resource.etag = some previous.etag := by
    intro previous hprevious
    cases h.state.symm.trans hprevious
    rfl
  obtain ⟨state, mid, hstate, hwrote⟩ :=
    ResourceStore.putAs_new form repo.env store (repo.stateArgs call resource controller')
      (hkeys.state call mem_cons_self) hmatch
  -- the number of the cycle has no record yet
  have hfree : mid.items.get? (repo.recordKey cycle.id) = none := by
    rw [hwrote.items _ (key_ne_recordKey _).symm]
    exact h.records cycle.id (by omega)
  have hrecordKey : mid.idempotency.get? (repo.tenantId, "mpc-cycle:" ++ call.idempotencyKey) =
      none := by
    rw [hwrote.records _ fun heq => stateKey_ne_recordKey _ _ (Prod.mk.inj heq).2.symm]
    exact hkeys.record call mem_cons_self
  obtain ⟨record, store', hrecord, hwrote'⟩ :=
    ResourceStore.putAs_new form repo.env mid (repo.recordArgs call cycle) hrecordKey
      (by intro previous hprevious; cases hfree.symm.trans hprevious)
  refine ⟨store', state, ?_, ⟨?_, hwrote.body, ?_⟩, hkeys.tail.mono ?_ ?_⟩
  · simp only [MpcRepository.save, hstate, hrecord]
  · rw [hwrote'.items _ (key_ne_recordKey cycle.id)]
    exact hwrote.item
  · intro number hnumber
    rw [hwrote'.items _ fun heq => by
        have hnumber : number = cycle.id := recordKey_injective heq
        omega,
      hwrote.items _ (key_ne_recordKey number).symm]
    exact h.records number (by omega)
  · intro other hother
    rw [hwrote'.records _ fun heq => stateKey_ne_recordKey _ _ (Prod.mk.inj heq).2]
    exact hwrote.records _ fun heq =>
      hkeys.ne hother (stateKey_injective (Prod.mk.inj heq).2)
  · intro other hother
    rw [hwrote'.records _ fun heq =>
      hkeys.ne hother (recordKeyOf_injective (Prod.mk.inj heq).2)]
    exact hwrote.records _ fun heq => stateKey_ne_recordKey _ _ (Prod.mk.inj heq).2.symm

theorem Stored.fromState (hdecimal : DecimalText repo.env)
    (h : repo.Stored form store controller resource) :
    fromState repo.env resource.body = .ok controller.forget := by
  rw [h.body, ← keptState, fromState_keep form (decimalOfText_keepValue hdecimal form),
    decimalOfText_str hdecimal]
  rfl

/-- **One call.** It answers what the controller answers, and the store holds
the controller afterwards. -/
theorem Holds.cycle (hdecimal : DecimalText repo.env) (h : repo.Holds form store controller)
    (hkeys : repo.FreshKeys store (call :: calls)) :
    (repo.cycle form store call).1 = (controller.answer repo.contentHash call.cycleCall).1 ∧
      repo.Holds form (repo.cycle form store call).2
        (controller.answer repo.contentHash call.cycleCall).2 ∧
      repo.FreshKeys (repo.cycle form store call).2 calls := by
  obtain ⟨resource, mid, hload, hstored, hmidKeys⟩ := h.loadOrCreate hkeys
  have hrebuilt := hstored.fromState hdecimal
  rcases cycle_forget_cases repo.contentHash controller call.cycleCall with
    ⟨e, hforget, hcycle⟩ | ⟨cycle, rebuilt, controller', hforget, hcycle, hsame⟩
  · simp only [MpcRepository.cycle, hload, hrebuilt, ok_bind, hforget,
      answer, hcycle]
    exact ⟨trivial, .inr ⟨resource, hstored⟩, hmidKeys.tail⟩
  have heffect := cycle_effect hcycle
  have hrebuiltSequence : rebuilt.forget.cycleSequence = controller'.forget.cycleSequence :=
    congrArg cycleSequence hsame
  have hsequence : rebuilt.cycleSequence = controller.cycleSequence + 1 :=
    hrebuiltSequence.trans heffect.sequence
  obtain ⟨store', resource', hsave, hstored', hkeys'⟩ :=
    hstored.save hmidKeys heffect.id hsequence
  have hexport : rebuilt.forget.exportState repo.env = controller'.forget.exportState repo.env :=
    congrArg (exportState repo.env) hsame
  simp only [MpcRepository.cycle, hload, hrebuilt, ok_bind, hforget, hsave, answer, hcycle]
  exact ⟨trivial, .inr ⟨resource', hstored'.state, hexport ▸ hstored'.body,
    hrebuiltSequence ▸ hstored'.records⟩, hkeys'⟩

/-! ## Every run -/

/-- **Every run.** From a store that holds the controller. -/
theorem Holds.outputs (hdecimal : DecimalText repo.env) (h : repo.Holds form store controller)
    (hkeys : repo.FreshKeys store calls) :
    Lib.outputs (repo.cycle form) store calls =
      Lib.outputs (answer repo.contentHash) controller
        (calls.map RepositoryCall.cycleCall) := by
  refine outputs_eq_of_simulation
    (R := fun calls store controller =>
      repo.Holds form store controller ∧ repo.FreshKeys store calls) ?_ calls store controller
    ⟨h, hkeys⟩
  rintro call rest store controller ⟨hholds, hfresh⟩
  exact hholds.cycle hdecimal hfresh

end MpcRepository

end ComputeWeaver.Mpc
