/-
Mpc.RepositoryTheorems — concurrent cycles of one persisted
controller.

The calls of a repository follow the protocol of `Lib.Optimistic`: the cell is
the stored state of the controller, an update is "read the state, run the
controller, export it", and a commit is the conditional put (`Simulates.step`).
A stale put is refused because the etag covers the version. The rest is an
induction on the serial run (`serial_pairwise`).
-/
import ComputeWeaver.Api.StoredBodies
import ComputeWeaver.Lib.Optimistic
import ComputeWeaver.Mpc.ControllerTheorems
import ComputeWeaver.Mpc.Repository

namespace ComputeWeaver.Mpc

open Lib Workloads Scheduling Api MpcController MpcRepository List RepositoryState

/-! ## The state survives the round trip through the store -/

section

variable {env : PyEnv} (form : BodyForm)

variable {document : Document} {key : String} {value : Value}

theorem docItem_eq_ok :
    docItem document key = .ok value ↔ assocGet document key = some value := by
  unfold docItem
  cases assocGet document key <;> simp

theorem mapM_map_eq_ok {α β : Type} {f : α → β} {g : β → Except PyError α}
    (h : ∀ x, g (f x) = .ok x) (xs : List α) : (xs.map f).mapM g = .ok xs :=
  mapM_eq_ok.mpr (forall₂_map_left_iff.mpr (forall₂_same.mpr fun x _ => h x))

theorem docItem_keep (hkey : assocGet document key = some value) :
    docItem (form.keep env document) key = .ok (form.keepValue env value) := by
  rw [docItem_eq_ok, form.assocGet_keep, hkey]
  rfl

theorem readStr_keep {text : String} (hkey : assocGet document key = some (.str text)) :
    readStr env (form.keep env document) key = .ok text := by
  rw [readStr, docItem_keep form hkey, form.keepValue_str]
  rfl

theorem readTuple_keep {α : Type} {f : α → Value} {g : Value → Except PyError α} {xs : List α}
    (hkey : assocGet document key = some (.list (xs.map f)))
    (h : ∀ x, g (form.keepValue env (f x)) = .ok x) :
    readTuple (form.keep env document) key g = .ok xs := by
  rw [readTuple, docItem_keep form hkey, form.keepValue_list, map_map, ok_bind]
  exact mapM_map_eq_ok h xs

theorem readAllocation_keep (allocation : Allocation) :
    readAllocation env (form.keepValue env (.dict (allocationDocument allocation))) =
      .ok allocation := by
  have hstr : ∀ (key : String) {text : String},
      assocGet (allocationDocument allocation) key = some (.str text) →
      readStr env (form.keep env (allocationDocument allocation)) key = .ok text :=
    fun _ _ hkey => readStr_keep form hkey
  have hcount : docItem (form.keep env (allocationDocument allocation)) "gpu_count" =
      .ok (form.keepValue env (.int allocation.gpuCount)) := docItem_keep form rfl
  have hindices : readTuple (form.keep env (allocationDocument allocation)) "slot_indices"
      env.int = .ok allocation.slotIndices :=
    readTuple_keep form rfl fun i => by rw [form.keepValue_int]; rfl
  rw [form.keepValue_dict, readAllocation, hstr "job_id" rfl, hindices, hcount,
    hstr "reason_code" rfl, form.keepValue_int]
  rfl

theorem readPlan_keep (hdecimal : ∀ q, env.decimalOfText (form.keepValue env (.decimal q)) = .ok q)
    (plan : SchedulePlan) : readPlan env (form.keep env (planDocument plan)) = .ok plan := by
  have hstr : ∀ (key : String) {text : String},
      assocGet (planDocument plan) key = some (.str text) →
      readStr env (form.keep env (planDocument plan)) key = .ok text :=
    fun _ _ hkey => readStr_keep form hkey
  have hstrs : ∀ (key : String) {xs : List String},
      assocGet (planDocument plan) key = some (.list (xs.map .str)) →
      readTuple (form.keep env (planDocument plan)) key (fun item => pure (env.str item)) =
        .ok xs :=
    fun _ _ hkey => readTuple_keep form hkey fun s => by rw [form.keepValue_str]; rfl
  have hitem : ∀ (key : String) {q : ℚ},
      assocGet (planDocument plan) key = some (.decimal q) →
      docItem (form.keep env (planDocument plan)) key = .ok (form.keepValue env (.decimal q)) :=
    fun _ _ hkey => docItem_keep form hkey
  have hallocations : readTuple (form.keep env (planDocument plan)) "allocations"
      (readAllocation env) = .ok plan.allocations :=
    readTuple_keep form rfl (readAllocation_keep form)
  rw [readPlan, hstr "strategy" rfl, hallocations, hstrs "unscheduled" rfl,
    hitem "energy_intent_kwh" rfl, hitem "estimated_cost" rfl, hstrs "assumptions" rfl,
    hstrs "violations" rfl, hstr "input_hash" rfl]
  simp only [ok_bind, hdecimal]
  rfl

/-- The stored state of a controller: what was exported, under its id. -/
def storedState (env : PyEnv) (controllerId : String) (controller : MpcController) : Document :=
  docWith (controller.exportState env) "id" (.str controllerId)

/-- What a store keeps of it. -/
def keptState (env : PyEnv) (controllerId : String) (controller : MpcController) :
    Document :=
  docWith (form.keep env (controller.exportState env)) "id" (.str controllerId)

/-- The controller as it is read back. -/
abbrev MpcController.reloaded (controller : MpcController) (penalty : ℚ) : MpcController where
  stabilityPenalty := penalty
  lastSafe := controller.lastSafe
  executedSlots := controller.executedSlots
  cycleSequence := controller.cycleSequence

/-- **Round trip.** What a store keeps of a state reads back as the controller
it was exported from, without the recorded cycles, if the text of its penalty
parses at all. -/
theorem fromState_keep (hdecimal : ∀ q, env.decimalOfText (form.keepValue env (.decimal q)) = .ok q)
    (controllerId : String) (controller : MpcController) :
    fromState env (keptState form env controllerId controller) = controller.reloaded <$>
      env.decimalOfText (.str (env.str (.decimal controller.stabilityPenalty))) := by
  have hget : ∀ (key : String) {value default : Value}, "id" ≠ key →
      assocGet (controller.exportState env) key = some value →
      docGetD (keptState form env controllerId controller) key default =
        form.keepValue env value := by
    intro key value default hid hkey
    rw [docGetD, keptState, assocGet_docWith, if_neg hid, form.assocGet_keep, hkey]
    rfl
  have hlastSafe : readLastSafe env (keptState form env controllerId controller) =
      .ok controller.lastSafe := by
    rw [readLastSafe, hget "last_safe" (by decide) rfl]
    cases controller.lastSafe with
    | none => simp only [form.keepValue_none]; rfl
    | some plan =>
      simp only [form.keepValue_dict, readPlan_keep form hdecimal]
      rfl
  have hexecuted : readExecuted env (keptState form env controllerId controller) =
      .ok controller.executedSlots := by
    rw [readExecuted, hget "executed_slots" (by decide) rfl, form.keepValue_list, map_map]
    simp only [PyEnv.list, except_pure, ok_bind]
    rw [mapM_map_eq_ok (g := env.int) fun i => by
      simp only [Function.comp_apply, form.keepValue_int]; rfl]
    refine congrArg Except.ok ?_
    ext i
    simp
  rw [fromState, hlastSafe, hexecuted, hget "stability_penalty" (by decide) rfl,
    hget "cycle_sequence" (by decide) rfl, form.keepValue_str, form.keepValue_int]
  rfl

end

/-! ## A call as an update of the stored state -/

section

variable (repo : MpcRepository) (calls : Nat → RepositoryCall)

/-- What call `i` makes of a stored state: the next one, and its cycle. -/
def MpcRepository.update (i : Nat) (body : Document) : Option (Document × MpcCycle) :=
  match MpcController.fromState repo.env body >>= fun controller =>
      controller.cycle repo.contentHash (calls i).cycleCall with
  | .ok (cycle, controller) => some (storedState repo.env repo.controllerId controller, cycle)
  | .error _ => none

/-- The slot a call dispatches: the first of its request. -/
def dispatchedSlot (call : RepositoryCall) : Option Int :=
  (call.request.slots.map (·.index)).min?

variable {repo calls}

/-- What an update does to the number and the executed slots of the
controller. -/
theorem update_effect {i : Nat} {body body' : Document} {cycle : MpcCycle}
    (h : repo.update calls i body = some (body', cycle)) :
    ∃ controller, fromState repo.env body = .ok controller ∧
      cycle.id = controller.cycleSequence + 1 ∧
      (∀ slot, dispatchedSlot (calls i) = some slot → slot ∉ controller.executedSlots) ∧
      ∀ controller', fromState repo.env body' = .ok controller' →
        controller'.cycleSequence = controller.cycleSequence + 1 ∧
        controller'.executedSlots =
          controller.executedSlots ∪ (dispatchedSlot (calls i)).toFinset := by
  unfold update at h
  split at h
  · rename_i out controller₁ hok
    obtain ⟨controller, hload, hcycle⟩ := bind_eq_ok.mp hok
    cases h
    have heffect := cycle_effect hcycle
    have hcurrent : currentIndex controller.executedSlots (calls i).cycleCall.request.slots =
        dispatchedSlot (calls i) := by
      -- no slot of an accepted request has been executed
      rw [currentIndex, filter_eq_self.mpr (by simpa using heffect.fresh)]
      rfl
    refine ⟨controller, hload, heffect.id, ?_, ?_⟩
    · intro slot hslot
      obtain ⟨first, hfirst, rfl⟩ := mem_map.mp (min?_mem hslot)
      exact heffect.fresh first hfirst
    · intro controller' hstored
      have hread : fromState repo.env (storedState repo.env repo.controllerId controller₁) = _ :=
        fromState_keep .objects (fun _ => rfl) repo.controllerId controller₁
      obtain ⟨_, _, rfl⟩ := map_eq_ok.mp (hread.symm.trans hstored)
      exact ⟨heffect.sequence, hcurrent ▸ heffect.executed⟩
  · cases h

end

/-! ## What a serial run of cycles does -/

section

variable {repo : MpcRepository} {calls : Nat → RepositoryCall} {a b : Document}
  {log : List (Nat × MpcCycle)}

section

variable (h : Optimistic.Serial (repo.update calls) a log b)
include h

/-- A state that a cycle was run on, or that led to one that can be read, can
be read. -/
theorem serial_decodes (hd : log ≠ [] ∨ ∃ controller, fromState repo.env b = .ok controller) :
    ∃ controller, fromState repo.env a = .ok controller := by
  cases log with
  | nil =>
    cases h
    simpa using hd
  | cons first rest =>
    obtain ⟨_, hfirst, _⟩ := h
    obtain ⟨controller, hload, _⟩ := update_effect hfirst
    exact ⟨controller, hload⟩

/-- Later cycles have larger numbers and take slots not yet executed. -/
theorem serial_later {controller : MpcController} (ha : fromState repo.env a = .ok controller) :
    ∀ entry ∈ log, controller.cycleSequence < entry.2.id ∧
      ∀ slot, dispatchedSlot (calls entry.1) = some slot → slot ∉ controller.executedSlots := by
  induction log generalizing a controller with
  | nil => simp
  | cons first rest ih =>
    obtain ⟨i, cycle⟩ := first
    obtain ⟨mid, hmid, hrest⟩ := h
    obtain ⟨controller₀, hload, hid, hfresh, hnext⟩ := update_effect hmid
    cases hload.symm.trans ha
    refine forall_mem_cons.mpr ⟨⟨by simp only; omega, hfresh⟩, ?_⟩
    intro entry hentry
    obtain ⟨controller', hload'⟩ := serial_decodes hrest (.inl (ne_nil_of_mem hentry))
    obtain ⟨hsequence, hexecuted⟩ := hnext controller' hload'
    obtain ⟨hlt, hslots⟩ := ih hrest hload' entry hentry
    refine ⟨by omega, ?_⟩
    intro slot hslot hmem
    exact hslots slot hslot (by rw [hexecuted]; exact Finset.mem_union_left _ hmem)

/-- In a serial run the numbers increase and no slot is taken twice. -/
theorem serial_pairwise :
    log.Pairwise fun earlier later => earlier.2.id < later.2.id ∧
      ∀ slot, dispatchedSlot (calls earlier.1) = some slot →
        dispatchedSlot (calls later.1) ≠ some slot := by
  induction log generalizing a with
  | nil => exact List.Pairwise.nil
  | cons first rest ih =>
    obtain ⟨i, cycle⟩ := first
    obtain ⟨mid, hmid, hrest⟩ := h
    obtain ⟨controller, _, hid, _, hnext⟩ := update_effect hmid
    refine pairwise_cons.mpr ⟨?_, ih hrest⟩
    intro entry hentry
    obtain ⟨controller', hload'⟩ := serial_decodes hrest (.inl (ne_nil_of_mem hentry))
    obtain ⟨hsequence, hexecuted⟩ := hnext controller' hload'
    obtain ⟨hlt, hslots⟩ := serial_later hrest hload' entry hentry
    refine ⟨by simp only; omega, ?_⟩
    intro slot hslot hother
    refine hslots slot hother ?_
    rw [hexecuted, hslot]
    exact Finset.mem_union_right _ (by simp)

end

/-- Two cycles with different numbers and different slots. -/
def Apart (calls : Nat → RepositoryCall) (p q : Nat × MpcCycle) : Prop :=
  p.2.id ≠ q.2.id ∧ ∀ slot, dispatchedSlot (calls p.1) = some slot →
    dispatchedSlot (calls q.1) ≠ some slot

instance : Std.Symm (Apart calls) where
  symm _ _ h := ⟨h.1.symm, fun slot hq hp => h.2 slot hp hq⟩

theorem serial_apart (h : Optimistic.Serial (repo.update calls) a log b) {p q : Nat × MpcCycle}
    (hp : p ∈ log) (hq : q ∈ log) (hne : p ≠ q) : Apart calls p q := by
  have hpairwise : log.Pairwise (Apart calls) :=
    (serial_pairwise h).imp fun hpq => ⟨hpq.1.ne, hpq.2⟩
  exact hpairwise.forall hp hq hne

theorem serial_executed (h : Optimistic.Serial (repo.update calls) a log b)
    {controller controller' : MpcController} (ha : fromState repo.env a = .ok controller)
    (hb : fromState repo.env b = .ok controller') :
    controller.executedSlots ⊆ controller'.executedSlots ∧
      ∀ entry ∈ log, ∀ slot, dispatchedSlot (calls entry.1) = some slot →
        slot ∈ controller'.executedSlots := by
  induction log generalizing a controller with
  | nil =>
    cases h
    cases ha.symm.trans hb
    exact ⟨fun _ hmem => hmem, by simp⟩
  | cons first rest ih =>
    obtain ⟨i, cycle⟩ := first
    obtain ⟨mid, hmid, hrest⟩ := h
    obtain ⟨controller₀, hload, _, _, hnext⟩ := update_effect hmid
    cases hload.symm.trans ha
    obtain ⟨controller₁, hload₁⟩ := serial_decodes hrest (.inr ⟨controller', hb⟩)
    obtain ⟨_, hexecuted⟩ := hnext controller₁ hload₁
    obtain ⟨hsubset, htaken⟩ := ih hrest hload₁
    rw [hexecuted] at hsubset
    refine ⟨fun slot hmem => hsubset (Finset.mem_union_left _ hmem),
      forall_mem_cons.mpr ⟨?_, htaken⟩⟩
    intro slot hslot
    exact hsubset (Finset.mem_union_right _ (by simp [hslot]))

end

/-! ## The steps of the calls -/

section

variable (repo : MpcRepository) (calls : Nat → RepositoryCall)

/-- What the step of call `i` does, with what let it happen. -/
inductive Moved (x : RepositoryState) (i : Nat) : RepositoryState → Prop
  | loaded (resource : StoredResource) (hphase : x.phase i = .idle ∨ x.phase i = .created)
      (hload : x.store.items.get? repo.key = some resource) :
      Moved x i ⟨x.store, Function.update x.phase i (.loaded resource)⟩
  | absent (hphase : x.phase i = .idle) (hload : x.store.items.get? repo.key = none) :
      Moved x i ⟨x.store, Function.update x.phase i .missing⟩
  | created (store : ResourceStore) (hphase : x.phase i = .missing) :
      Moved x i ⟨store, Function.update x.phase i .created⟩
  | computed (resource : StoredResource) (cycle : MpcCycle) (controller : MpcController)
      (hphase : x.phase i = .loaded resource)
      (hupdate : repo.update calls i resource.body =
        some (storedState repo.env repo.controllerId controller, cycle)) :
      Moved x i ⟨x.store, Function.update x.phase i (.computed resource cycle controller)⟩
  | stored (resource written : StoredResource) (cycle : MpcCycle) (controller : MpcController)
      (store : ResourceStore) (hphase : x.phase i = .computed resource cycle controller)
      (hput : ResourceStore.PutEffect repo.env x.store
        (repo.stateArgs (calls i) resource controller) written store) :
      Moved x i ⟨store, Function.update x.phase i (.stored cycle)⟩
  | recorded (cycle : MpcCycle) (written : StoredResource) (store : ResourceStore)
      (hphase : x.phase i = .stored cycle)
      (hput : ResourceStore.PutEffect repo.env x.store (repo.recordArgs (calls i) cycle)
        written store) :
      Moved x i ⟨store, Function.update x.phase i (.returned cycle)⟩
  | raised (e : PyError) (hreturned : ∀ cycle, x.phase i ≠ .returned cycle)
      (hraised : ∀ e', x.phase i ≠ .raised e') :
      Moved x i ⟨x.store, Function.update x.phase i (.raised e)⟩
  | skip : Moved x i x

variable {repo calls}

theorem load_eq_ok {store : ResourceStore} {resource : StoredResource} :
    repo.load store = .ok resource ↔ store.items.get? repo.key = some resource :=
  Dict.getItem_eq_ok

variable {e : PyError} {x : RepositoryState} {i : Nat}

theorem load_error {store : ResourceStore} (h : repo.load store = .error e) :
    store.items.get? repo.key = none ∧ e = .keyError repo.controllerId := by
  unfold load ResourceStore.get Dict.getItem at h
  split at h
  · cases h
  · rename_i hnone
    cases h
    exact ⟨hnone, rfl⟩

/-- A call that is not over does what `advance` says, or raises and leaves the
store alone. -/
theorem moved_of_advance {p : CyclePhase} (hphase : x.phase i = p)
    (hok : ∀ phase store, repo.advance (calls i) x.store p = .ok (phase, store) →
      Moved repo calls x i ⟨store, Function.update x.phase i phase⟩)
    (hreturned : ∀ cycle, p ≠ .returned cycle := by simp)
    (hraised : ∀ e, p ≠ .raised e := by simp) : Moved repo calls x i (x.step repo calls i) := by
  subst hphase
  unfold step
  split
  · rename_i phase store hadvance
    exact hok phase store hadvance
  · exact .raised _ hreturned hraised

theorem step_of_over (h : repo.advance (calls i) x.store (x.phase i) = .ok (x.phase i, x.store)) :
    x.step repo calls i = x := by
  simp [step, h]

theorem step_moved (repo : MpcRepository) (calls : Nat → RepositoryCall) (x : RepositoryState)
    (i : Nat) : Moved repo calls x i (x.step repo calls i) := by
  cases hphase : x.phase i with
  | idle =>
    refine moved_of_advance hphase ?_
    intro phase store h
    rw [advance] at h
    cases hload : repo.load x.store with
    | ok resource =>
      rw [hload] at h
      cases h
      exact .loaded resource (.inl hphase) (load_eq_ok.mp hload)
    | error e =>
      obtain ⟨hnone, rfl⟩ := load_error hload
      rw [hload] at h
      cases h
      exact .absent hphase hnone
  | missing =>
    refine moved_of_advance hphase ?_
    intro phase store h
    obtain ⟨_, _, h⟩ := bind_eq_ok.mp h
    cases h
    exact .created _ hphase
  | created =>
    refine moved_of_advance hphase ?_
    intro phase store h
    obtain ⟨resource, hload, h⟩ := bind_eq_ok.mp h
    cases h
    exact .loaded resource (.inr hphase) (load_eq_ok.mp hload)
  | loaded resource =>
    refine moved_of_advance hphase ?_
    intro phase store h
    obtain ⟨controller, hload, h⟩ := bind_eq_ok.mp h
    obtain ⟨⟨cycle, controller'⟩, hcycle, h⟩ := bind_eq_ok.mp h
    cases h
    refine .computed resource cycle controller' hphase ?_
    simp [update, hload, hcycle]
  | computed resource cycle controller =>
    refine moved_of_advance hphase ?_
    intro phase store h
    obtain ⟨⟨written, store'⟩, hput, h⟩ := bind_eq_ok.mp h
    cases h
    exact .stored resource written cycle controller _ hphase (ResourceStore.put_effect hput)
  | stored cycle =>
    refine moved_of_advance hphase ?_
    intro phase store h
    obtain ⟨⟨written, store'⟩, hput, h⟩ := bind_eq_ok.mp h
    cases h
    exact .recorded cycle written _ hphase (ResourceStore.put_effect hput)
  | returned cycle | raised e =>
    rw [step_of_over (by rw [hphase]; rfl)]
    exact .skip

theorem raised_step (h : x.phase i = .raised e) (k : Nat) :
    (x.step repo calls k).phase i = .raised e := by
  have hmoved := step_moved repo calls x k
  generalize x.step repo calls k = x' at hmoved
  by_cases hki : i = k
  · subst hki
    cases hmoved with
    | skip => exact h
    | raised _ _ hraised => exact absurd h (hraised e)
    | loaded _ hphase | absent hphase | created _ hphase | computed _ _ _ hphase
    | stored _ _ _ _ _ hphase | recorded _ _ _ hphase => simp [h] at hphase
  · cases hmoved with
    | skip => exact h
    | _ => simpa [Function.update_of_ne hki] using h

theorem raised_run (h : x.phase i = .raised e) (moves : List Nat) :
    (run (step repo calls) x moves).phase i = .raised e :=
  run_invariant (P := fun x => x.phase i = .raised e) (fun _ k hx => raised_step hx k) moves x h

end

/-! ## The calls follow the protocol -/

section

variable (repo : MpcRepository) (calls : Nat → RepositoryCall)

def Tagged (resource : StoredResource) : Prop :=
  resource.etag = etagOf repo.env repo.tenantId "mpc_controller_state" resource.version
    resource.body

/-- Where a call is in the protocol. A call that raised has committed if the
put of its record was what failed. -/
inductive SamePhase (i : Nat) :
    CyclePhase → Optimistic.Phase Document MpcCycle → Prop
  | idle : SamePhase i .idle .idle
  | loaded (resource : StoredResource) (htagged : Tagged repo resource) :
      SamePhase i (.loaded resource) (.holding resource.version resource.body)
  | computed (resource : StoredResource) (cycle : MpcCycle) (controller : MpcController)
      (htagged : Tagged repo resource)
      (hupdate : repo.update calls i resource.body =
        some (storedState repo.env repo.controllerId controller, cycle)) :
      SamePhase i (.computed resource cycle controller)
        (.holding resource.version resource.body)
  | stored (cycle : MpcCycle) : SamePhase i (.stored cycle) (.committed cycle)
  | returned (cycle : MpcCycle) : SamePhase i (.returned cycle) (.committed cycle)
  | raised (e : PyError) (phase : Optimistic.Phase Document MpcCycle) :
      SamePhase i (.raised e) phase

/-- The store and the calls are in the state of the cell. A call that has not
committed has not used its key. -/
structure Simulates (x : RepositoryState) (s : Optimistic.Cell Document MpcCycle) : Prop where
  state : ∃ resource, x.store.items.get? repo.key = some resource ∧ Tagged repo resource ∧
    resource.version = s.version ∧ resource.body = s.content
  phases : ∀ i, SamePhase repo calls i (x.phase i) (s.phase i)
  fresh : ∀ i, (∀ cycle, s.phase i ≠ .committed cycle) →
    x.store.idempotency.get? (repo.tenantId, "mpc-state:" ++ (calls i).idempotencyKey) = none

variable {repo calls}

variable {i : Nat} {x : RepositoryState} {s : Optimistic.Cell Document MpcCycle}

theorem samePhase_update {p : Nat → CyclePhase} {q : Nat → Optimistic.Phase Document MpcCycle}
    (h : ∀ k, SamePhase repo calls k (p k) (q k)) {p' : CyclePhase}
    {q' : Optimistic.Phase Document MpcCycle} (hi : SamePhase repo calls i p' q') (k : Nat) :
    SamePhase repo calls k (Function.update p i p' k) (Function.update q i q' k) := by
  by_cases hk : k = i
  · subst hk
    rw [Function.update_self, Function.update_self]
    exact hi
  · rw [Function.update_of_ne hk, Function.update_of_ne hk]
    exact h k

theorem Simulates.stay (h : Simulates repo calls x s) {phase : CyclePhase}
    (hi : SamePhase repo calls i phase (s.phase i)) :
    Simulates repo calls ⟨x.store, Function.update x.phase i phase⟩ s where
  state := h.state
  phases := by
    intro k
    have hk := samePhase_update h.phases hi k
    rwa [Function.update_eq_self] at hk
  fresh := h.fresh

theorem Simulates.move (h : Simulates repo calls x s)
    (hopen : ∀ cycle, s.phase i ≠ .committed cycle) {p : CyclePhase}
    {q : Optimistic.Phase Document MpcCycle} (hi : SamePhase repo calls i p q) :
    Simulates repo calls ⟨x.store, Function.update x.phase i p⟩
      { s with phase := Function.update s.phase i q } where
  state := h.state
  phases := samePhase_update h.phases hi
  fresh := by
    intro k hk
    by_cases hki : k = i
    · subst hki
      exact h.fresh k hopen
    · exact h.fresh k (by simpa [Function.update_of_ne hki] using hk)

theorem stateKey_ne_recordKey (a b : String) : "mpc-state:" ++ a ≠ "mpc-cycle:" ++ b := by
  intro h
  have hlist := congrArg String.toList h
  simp at hlist

theorem stateKey_injective {a b : String} (h : "mpc-state:" ++ a = "mpc-state:" ++ b) : a = b := by
  have hlist := congrArg String.toList h
  simpa [String.toList_append, String.toList_inj] using hlist

theorem recorded_frame {store store' : ResourceStore} {call : RepositoryCall} {cycle : MpcCycle}
    {written : StoredResource}
    (h : ResourceStore.PutEffect repo.env store (repo.recordArgs call cycle) written store') :
    store'.items.get? repo.key = store.items.get? repo.key ∧
      ∀ key, store'.idempotency.get? (repo.tenantId, "mpc-state:" ++ key) =
        store.idempotency.get? (repo.tenantId, "mpc-state:" ++ key) := by
  cases h with
  | replayed => exact ⟨rfl, fun _ => rfl⟩
  | stored =>
    refine ⟨Dict.get?_set_ne _ _ ?_, fun key => Dict.get?_set_ne _ _ ?_⟩
    · simp [PutArgs.key, recordArgs, key]
    · intro heq
      exact stateKey_ne_recordKey key call.idempotencyKey (Prod.mk.inj heq).2.symm

section

variable (hetags : EtagsDiffer repo.env)
  (hkeys : ∀ j k, (calls j).idempotencyKey = (calls k).idempotencyKey → j = k)
include hetags hkeys

/-- The conditional put commits: the etag it names is that of the stored
version, so the version it was computed from is still the stored one. -/
theorem Simulates.commit (h : Simulates repo calls x s) {resource written : StoredResource}
    {cycle : MpcCycle} {controller : MpcController} {store : ResourceStore}
    (hholding : s.phase i = .holding resource.version resource.body)
    (htagged : Tagged repo resource)
    (hupdate : repo.update calls i resource.body =
      some (storedState repo.env repo.controllerId controller, cycle))
    (hput : ResourceStore.PutEffect repo.env x.store (repo.stateArgs (calls i) resource controller)
      written store) :
    ∃ s', Optimistic.Step (repo.update calls) s s' ∧
      Simulates repo calls ⟨store, Function.update x.phase i (.stored cycle)⟩ s' := by
  obtain ⟨current, hcurrent, hcurrentTag, hversion, hbody⟩ := h.state
  have hnone := h.fresh i (by simp [hholding])
  cases hput with
  | replayed _ hkey => cases hnone.symm.trans hkey
  | stored _ hmatch =>
    have hstoredKey : (repo.stateArgs (calls i) resource controller).key = repo.key := rfl
    rw [hstoredKey, hcurrent] at hmatch
    have htag : resource.etag = current.etag := Option.some.inj (hmatch current rfl)
    have hsame : resource.version = current.version := by
      by_contra hne
      exact hetags _ _ _ _ resource.body current.body hne
        (htagged.symm.trans (htag.trans hcurrentTag))
    rw [hsame, hversion] at hholding
    refine ⟨_, .commit i resource.body _ cycle hholding hupdate, ?_, ?_, ?_⟩
    · rw [hstoredKey, hcurrent]
      refine ⟨_, Dict.get?_set_self _ _ _, rfl, ?_, rfl⟩
      exact congrArg (· + 1) hversion
    · exact samePhase_update h.phases (.stored cycle)
    · intro k hk
      by_cases hki : k = i
      · subst hki
        exact absurd (Function.update_self k _ s.phase) (hk cycle)
      rw [Dict.get?_set_ne]
      · exact h.fresh k (by simpa [Function.update_of_ne hki] using hk)
      · intro heq
        exact hki (hkeys k i (stateKey_injective (Prod.mk.inj heq).2.symm))

/-- **The calls follow the protocol**: every step of a call is a step of the
cell, or leaves it as it is. -/
theorem Simulates.step (h : Simulates repo calls x s) (i : Nat) :
    ∃ s', Optimistic.Steps (repo.update calls) s s' ∧
      Simulates repo calls (x.step repo calls i) s' := by
  have hi := h.phases i
  have hmoved := step_moved repo calls x i
  generalize x.step repo calls i = x' at hmoved
  cases hmoved with
  | loaded resource hphase hload =>
    obtain ⟨current, hcurrent, htagged, hversion, hbody⟩ := h.state
    cases hload.symm.trans hcurrent
    rcases hphase with hphase | hphase <;> rw [hphase] at hi
    · cases hq : s.phase i <;> rw [hq] at hi <;> cases hi
      refine ⟨_, .single (.read i hq), h.move (by simp [hq]) ?_⟩
      rw [← hversion, ← hbody]
      exact .loaded resource htagged
    · cases hi
  | absent hphase hload =>
    obtain ⟨current, hcurrent, _⟩ := h.state
    cases hload.symm.trans hcurrent
  | created store hphase =>
    rw [hphase] at hi
    cases hi
  | computed resource cycle controller hphase hupdate =>
    rw [hphase] at hi
    generalize hq : s.phase i = q at hi
    cases hi with
    | loaded _ htagged =>
      refine ⟨s, .refl, h.stay ?_⟩
      rw [hq]
      exact .computed resource cycle controller htagged hupdate
  | stored resource written cycle controller store hphase hput =>
    rw [hphase] at hi
    generalize hq : s.phase i = q at hi
    cases hi with
    | computed _ _ _ htagged hupdate =>
      obtain ⟨s', hstep, hsim⟩ := h.commit hetags hkeys hq htagged hupdate hput
      exact ⟨s', .single hstep, hsim⟩
  | recorded cycle written store hphase hput =>
    obtain ⟨hitems, hidempotency⟩ := recorded_frame hput
    rw [hphase] at hi
    generalize hq : s.phase i = q at hi
    cases hi with
    | stored =>
      refine ⟨s, .refl, hitems ▸ h.state, ?_, ?_⟩
      · have hphases := samePhase_update h.phases (i := i) (.returned cycle)
        rwa [← hq, Function.update_eq_self] at hphases
      · intro k hk
        rw [hidempotency]
        exact h.fresh k hk
  | raised e =>
    by_cases hopen : ∀ cycle, s.phase i ≠ .committed cycle
    · exact ⟨_, .single (.fail i hopen), h.move hopen (.raised e .failed)⟩
    · exact ⟨s, .refl, h.stay (.raised e _)⟩
  | skip => exact ⟨s, .refl, h⟩

theorem Simulates.run (moves : List Nat) (h : Simulates repo calls x s) :
    ∃ s', Optimistic.Steps (repo.update calls) s s' ∧
      Simulates repo calls (Lib.run (RepositoryState.step repo calls) x moves) s' := by
  induction moves generalizing x s with
  | nil => exact ⟨s, .refl, h⟩
  | cons i rest ih =>
    obtain ⟨mid, hmid, hsim⟩ := h.step hetags hkeys i
    obtain ⟨s', hsteps, hrest⟩ := ih hsim
    exact ⟨s', hmid.trans hsteps, hrest⟩

end

end

/-! ## Every interleaving -/

section

def MpcRepository.persisted (repo : MpcRepository) (x : RepositoryState) : Option StoredResource :=
  x.store.items.get? repo.key

/-- The call has put its state and has not failed since. -/
def StatePut (x : RepositoryState) (i : Nat) : Prop :=
  ∃ cycle, x.phase i = .stored cycle ∨ x.phase i = .returned cycle

variable {repo : MpcRepository} {calls : Nat → RepositoryCall}

variable {x : RepositoryState} {s : Optimistic.Cell Document MpcCycle} {i : Nat} {cycle : MpcCycle}

theorem Simulates.committed (h : Simulates repo calls x s)
    (hphase : x.phase i = .stored cycle ∨ x.phase i = .returned cycle) :
    s.phase i = .committed cycle := by
  have hi := h.phases i
  generalize s.phase i = q at hi
  rcases hphase with hphase | hphase <;> rw [hphase] at hi <;> cases hi <;> rfl

theorem Simulates.persisted_step (h : Simulates repo calls x s) (i : Nat)
    (hput : ¬ StatePut (x.step repo calls i) i) :
    repo.persisted (x.step repo calls i) = repo.persisted x := by
  have hi := h.phases i
  have hmoved := step_moved repo calls x i
  generalize x.step repo calls i = x' at hmoved hput
  cases hmoved with
  | loaded => rfl
  | absent => rfl
  | created store hphase =>
    rw [hphase] at hi
    cases hi
  | computed => rfl
  | stored resource written cycle controller store =>
    exact absurd ⟨cycle, .inl (Function.update_self i _ x.phase)⟩ hput
  | recorded cycle written store _ hrecord => exact (recorded_frame hrecord).1
  | raised => rfl
  | skip => rfl

/-- What a run of concurrent calls guarantees. -/
structure CyclesSerial (repo : MpcRepository) (calls : Nat → RepositoryCall)
    (x₀ : RepositoryState) (moves : List Nat) : Prop where
  slots : ∀ i j cycle cycle', i ≠ j →
    (run (RepositoryState.step repo calls) x₀ moves).phase i = .returned cycle →
    (run (RepositoryState.step repo calls) x₀ moves).phase j = .returned cycle' →
    ∀ slot, dispatchedSlot (calls i) = some slot → dispatchedSlot (calls j) ≠ some slot
  executed : ∀ i cycle resource controller,
    (run (RepositoryState.step repo calls) x₀ moves).phase i = .returned cycle →
    repo.persisted (run (RepositoryState.step repo calls) x₀ moves) = some resource →
    MpcController.fromState repo.env resource.body = .ok controller →
    ∀ slot, dispatchedSlot (calls i) = some slot → slot ∈ controller.executedSlots
  ids : ∀ i j cycle cycle', i ≠ j →
    (run (RepositoryState.step repo calls) x₀ moves).phase i = .returned cycle →
    (run (RepositoryState.step repo calls) x₀ moves).phase j = .returned cycle' →
    cycle.id ≠ cycle'.id
  ordered : ∀ pre post, moves = pre ++ post → ∀ i j cycle cycle',
    StatePut (run (RepositoryState.step repo calls) x₀ pre) i →
    ¬ StatePut (run (RepositoryState.step repo calls) x₀ pre) j →
    (run (RepositoryState.step repo calls) x₀ moves).phase i = .returned cycle →
    (run (RepositoryState.step repo calls) x₀ moves).phase j = .returned cycle' →
    cycle.id < cycle'.id
  raised : ∀ i e, (run (RepositoryState.step repo calls) x₀ moves).phase i = .raised e →
    (∀ pre post, moves = pre ++ post →
      ¬ StatePut (run (RepositoryState.step repo calls) x₀ pre) i) →
    ∀ pre post, moves = pre ++ i :: post →
      repo.persisted (run (RepositoryState.step repo calls) x₀ (pre ++ [i])) =
        repo.persisted (run (RepositoryState.step repo calls) x₀ pre)

variable {a : Document} {moves : List Nat}

/-- A call that returns has not put its state before it is seen to have. -/
theorem Simulates.not_logged (h : Simulates repo calls x s)
    (hcoherent : Optimistic.Coherent (repo.update calls) a s) (hput : ¬ StatePut x i)
    (hreturned : (Lib.run (RepositoryState.step repo calls) x moves).phase i = .returned cycle) :
    (i, cycle) ∉ s.log := by
  intro hlogged
  have hcommitted := (hcoherent.logged i cycle).mpr hlogged
  have hi := h.phases i
  rw [hcommitted] at hi
  generalize hp : x.phase i = p at hi
  cases hi with
  | stored => exact hput ⟨cycle, .inl hp⟩
  | returned => exact hput ⟨cycle, .inr hp⟩
  | raised e => cases (raised_run hp moves).symm.trans hreturned

/-- Of two calls that return, the one that has put its state at some point
before the other has the smaller number. -/
theorem Simulates.id_lt (hetags : EtagsDiffer repo.env)
    (hkeys : ∀ j k, (calls j).idempotencyKey = (calls k).idempotencyKey → j = k)
    (h : Simulates repo calls x s) (hcoherent : Optimistic.Coherent (repo.update calls) a s)
    {j : Nat} (hputi : StatePut x i) (hputj : ¬ StatePut x j) {cycle' : MpcCycle}
    (hi : (Lib.run (RepositoryState.step repo calls) x moves).phase i = .returned cycle)
    (hj : (Lib.run (RepositoryState.step repo calls) x moves).phase j = .returned cycle') :
    cycle.id < cycle'.id := by
  obtain ⟨s', hsteps, hsim⟩ := h.run hetags hkeys moves
  have hend := hcoherent.steps hsteps
  -- what the log gains stands behind what it has already
  obtain ⟨later, hlater⟩ := Optimistic.log_isPrefix hsteps
  have hpairwise := serial_pairwise hend.serial
  rw [← hlater, pairwise_append] at hpairwise
  have hjlog := (hend.logged j cycle').mp (hsim.committed (.inr hj))
  rw [← hlater, mem_append] at hjlog
  have hjlater := hjlog.resolve_left (h.not_logged hcoherent hputj hj)
  obtain ⟨cycle₁, hcycle₁⟩ := hputi
  have hilog := (hcoherent.logged i cycle₁).mp (h.committed hcycle₁)
  have hsame : cycle = cycle₁ := by
    have hi' := (hend.logged i cycle₁).mpr (hlater ▸ mem_append_left later hilog)
    cases hi'.symm.trans (hsim.committed (.inr hi))
    rfl
  subst hsame
  exact (hpairwise.2.2 (i, cycle) hilog (j, cycle') hjlater).1

/-- **Main result.** Any number of concurrent calls with distinct fresh keys
on one existing controller, in any interleaving: the calls that return have
dispatched different slots, all of them executed in the persisted
controller, under different numbers that increase in the order of their
state puts, and a call that raises before its state put has not changed the
persisted controller. The stored state carries its etag, and etags of
different versions differ. -/
theorem concurrent_cycles_serial (repo : MpcRepository) (calls : Nat → RepositoryCall)
    (store : ResourceStore) (resource : StoredResource)
    (hexists : store.items.get? repo.key = some resource) (htagged : Tagged repo resource)
    (hetags : EtagsDiffer repo.env)
    (hkeys : ∀ j k, (calls j).idempotencyKey = (calls k).idempotencyKey → j = k)
    (hfresh : ∀ i, store.idempotency.get?
      (repo.tenantId, "mpc-state:" ++ (calls i).idempotencyKey) = none) (moves : List Nat) :
    CyclesSerial repo calls (.start store) moves := by
  have hstart : Simulates repo calls (.start store) (.start resource.version resource.body) :=
    ⟨⟨resource, hexists, htagged, rfl, rfl⟩, fun _ => .idle, fun i _ => hfresh i⟩
  have hcoherent := Optimistic.coherent_start (repo.update calls) resource.version resource.body
  obtain ⟨s, hsteps, hsim⟩ := hstart.run hetags hkeys moves
  have hend := hcoherent.steps hsteps
  have hlog : ∀ i cycle,
      (run (step repo calls) (.start store) moves).phase i = .returned cycle →
      (i, cycle) ∈ s.log := fun i cycle hi =>
    (hend.logged i cycle).mp (hsim.committed (.inr hi))
  refine ⟨?_, ?_, ?_, ?_, ?_⟩
  · intro i j cycle cycle' hne hi hj
    exact (serial_apart hend.serial (hlog i cycle hi) (hlog j cycle' hj) (by simp [hne])).2
  · intro i cycle resource' controller hi hpersisted hload
    obtain ⟨current, hcurrent, _, _, hbody⟩ := hsim.state
    cases hpersisted.symm.trans hcurrent
    rw [hbody] at hload
    have hmem := hlog i cycle hi
    obtain ⟨first, hfirst⟩ := serial_decodes hend.serial (.inl (ne_nil_of_mem hmem))
    exact (serial_executed hend.serial hfirst hload).2 (i, cycle) hmem
  · intro i j cycle cycle' hne hi hj
    exact (serial_apart hend.serial (hlog i cycle hi) (hlog j cycle' hj) (by simp [hne])).1
  · rintro pre post rfl i j cycle cycle' hputi hputj hi hj
    obtain ⟨mid, hmid, hsimMid⟩ := hstart.run hetags hkeys pre
    rw [run_append] at hi hj
    exact hsimMid.id_lt hetags hkeys (hcoherent.steps hmid) hputi hputj hi hj
  · rintro i e _ hnever pre post rfl
    obtain ⟨mid, _, hsimMid⟩ := hstart.run hetags hkeys pre
    have hstep := hnever (pre ++ [i]) post (by simp)
    rw [run_append, run_cons, run_nil] at hstep ⊢
    exact hsimMid.persisted_step i hstep

end

/-! ## Two calls that race, and one after them -/

def raceRepository : MpcRepository where
  env := taggingEnv
  contentHash := fun _ => "hash"
  asdict := fun cycle => [("id", .int cycle.id)]
  controllerId := "controller-one"
  tenantId := "tenant-one"

/-- Calls 0 and 1 both plan a job in slot 0, the others in the slots after it. -/
def raceCall (i : Nat) : RepositoryCall where
  request :=
    { jobs := [.simple "job-a" 1 1 10],
      slots := [.simple (i - 1 : Nat) 1 5 2, .simple (i - 1 + 1 : Nat) 1 0 2],
      topologyVersion := 1, forecastVersion := "forecast-1" }
  observed := (cycleCall [] [] ∅ 1).observed
  startedAt := .aware 0
  timeoutSeconds := 5
  clock := fun _ => 0
  idempotencyKey := unary i

def raceResource : StoredResource :=
  ResourceStore.written taggingEnv (raceRepository.createArgs (1 / 100) "setup") none

/-- The store after the controller was created. -/
def raceStore : ResourceStore where
  items := Dict.empty.set raceRepository.key raceResource
  versions := Dict.empty.set
    ("tenant-one", "mpc_controller_state", "controller-one", 1) raceResource
  idempotency := Dict.empty.set ("tenant-one", "mpc-create:setup")
    ((raceRepository.createArgs (1 / 100) "setup").requestHash taggingEnv, raceResource)

example : raceRepository.create .empty (1 / 100) "setup" = .ok (raceResource, raceStore) := rfl

/-- The two calls load the state, both compute, and the first one puts. -/
def raceMoves : List Nat := [0, 1, 0, 1, 0, 1, 0, 2, 2, 2, 2]

def CyclePhase.isReturned : CyclePhase → Bool
  | .returned _ => true
  | _ => false

theorem CyclePhase.eq_of_isReturned (phase : CyclePhase) (h : phase.isReturned = true) :
    ∃ cycle, phase = .returned cycle := by
  cases phase with
  | returned cycle => exact ⟨cycle, rfl⟩
  | _ => cases h

theorem concurrent_cycles_serial_race :
    ∃ cycle cycle', (run (RepositoryState.step raceRepository raceCall) (.start raceStore)
        raceMoves).phase 0 = .returned cycle ∧
      (run (RepositoryState.step raceRepository raceCall) (.start raceStore)
        raceMoves).phase 2 = .returned cycle' ∧
      ((run (RepositoryState.step raceRepository raceCall) (.start raceStore)
        raceMoves).phase 1).isReturned = false ∧
      cycle.id ≠ cycle'.id := by
  have hserial := concurrent_cycles_serial raceRepository raceCall raceStore raceResource rfl rfl
    taggingEnv_etagsDiffer
    (fun j k h => by exact_mod_cast unary_injective h)
    (fun i => by
      refine Dict.get?_set_ne _ _ fun h => ?_
      have hlist := congrArg String.toList (Prod.mk.inj h).2
      simp at hlist)
    raceMoves
  obtain ⟨cycle, hcycle⟩ := CyclePhase.eq_of_isReturned ((run
    (step raceRepository raceCall) (.start raceStore) raceMoves).phase 0)
    (by decide +kernel)
  obtain ⟨cycle', hcycle'⟩ := CyclePhase.eq_of_isReturned ((run
    (step raceRepository raceCall) (.start raceStore) raceMoves).phase 2)
    (by decide +kernel)
  exact ⟨cycle, cycle', hcycle, hcycle', by decide +kernel,
    hserial.ids 0 2 cycle cycle' (by decide) hcycle hcycle'⟩

end ComputeWeaver.Mpc
