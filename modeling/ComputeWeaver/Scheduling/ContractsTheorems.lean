/-
Scheduling.ContractsTheorems — when a plan passes the check.

A planner places jobs in windows of slot indices. `placedGpus` is the load
such a placement puts on one slot. The main lemma (`validatePlan_ok`) says
that a placement of distinct jobs, in slots that start before the deadlines
and whose loads stay within capacity, passes `validatePlan`: the partial
sums the check computes never exceed the final load.
-/
import Mathlib.Algebra.Order.BigOperators.Group.List
import ComputeWeaver.Scheduling.Contracts

namespace ComputeWeaver.Scheduling

open Lib Workloads List

abbrev DistinctSlots (request : ScheduleInput) : Prop := (request.slots.map (·.index)).Nodup

abbrev Lasting (request : ScheduleInput) : Prop := ∀ slot ∈ request.slots, 0 < slot.durationHours

/-! ## Positions -/

/-- Every slot carries its own position as its index. -/
def Positional (request : ScheduleInput) : Prop :=
  ∀ (n : Nat) (slot : TimeSlot), request.slots[n]? = some slot → slot.index = n

variable {request : ScheduleInput} {slot : TimeSlot} {job : Job} {plan : SchedulePlan}
  {jobs : Dict String Job} {used : Dict Int Int}

/-- Positions can be checked by comparing the indices as a whole. -/
theorem positional_of_indices
    (h : request.slots.map (·.index) = (List.range request.slots.length).map Nat.cast) :
    Positional request := by
  intro n slot hslot
  obtain ⟨hn, rfl⟩ := List.getElem?_eq_some_iff.mp hslot
  simpa [hn] using congrArg (fun indices => indices[n]?) h

theorem Positional.pyGet? (h : Positional request) (hslot : slot ∈ request.slots) :
    pyGet? request.slots slot.index = some slot := by
  obtain ⟨n, hn⟩ := mem_iff_getElem?.mp hslot
  rw [h n slot hn, pyGet?_natCast, hn]

theorem Positional.nodup (h : Positional request) : DistinctSlots request := by
  refine nodup_iff_injective_get.mpr fun a b hab => Fin.ext ?_
  have hindex : ∀ c : Fin (request.slots.map (·.index)).length,
      (request.slots.map (·.index)).get c = (c : Nat) := fun c => by
    have hc : (c : Nat) < request.slots.length := by simpa using c.2
    simpa using h c request.slots[(c : Nat)] (by simp)
  rw [hindex, hindex] at hab
  exact_mod_cast hab

def twoSlotInput : ScheduleInput where
  jobs := [.simple "job-a" 1 1 10, .simple "job-b" 1 1 10]
  slots := [.simple 0 1 5 2, .simple 1 1 5 3]
  topologyVersion := 1
  forecastVersion := "forecast-1"

theorem twoSlotInput_positional : Positional twoSlotInput := positional_of_indices rfl

/-! ## What a job asks for -/

/-- A slot is open to a job on its own: it starts before the deadline and has
the GPUs and the power. -/
@[mk_iff] structure Admits (job : Job) (slot : TimeSlot) : Prop where
  early : slot.startsAt.micros < job.sla.deadline.micros
  gpus : job.request.gpuCount ≤ slot.gpuCapacity
  power : job.request.gpuCount * job.request.powerKwPerGpu ≤ slot.powerCapacityKw

instance (job : Job) (slot : TimeSlot) : Decidable (Admits job slot) :=
  decidable_of_iff' _ (admits_iff job slot)

def admitted (request : ScheduleInput) (job : Job) : List TimeSlot :=
  request.slots.filter fun slot => decide (Admits job slot)

theorem mem_admitted : slot ∈ admitted request job ↔ slot ∈ request.slots ∧ Admits job slot := by
  simp [admitted]

/-- The number of slots a job needs, by the duration of the first slot. -/
def slotCount (request : ScheduleInput) (job : Job) : Int :=
  match request.slots with
  | [] => 0
  | first :: _ => ⌈PyDecimal.quotient job.request.estimatedHours first.durationHours⌉

theorem slotCount_of_ok {first : TimeSlot} {rest : List TimeSlot} {needed : Int}
    (hslots : request.slots = first :: rest)
    (h : slotsNeeded job first.durationHours = .ok needed) : slotCount request job = needed := by
  unfold slotsNeeded at h
  split at h
  · cases h
  · cases h
    simp [slotCount, hslots]

theorem slotCount_pos (hduration : Lasting request) (hslots : request.slots ≠ []) (job : Job) :
    0 < slotCount request job := by
  obtain ⟨first, rest, hfirst⟩ := exists_cons_of_ne_nil hslots
  have hpos : 0 < first.durationHours := hduration first (by simp [hfirst])
  simp only [slotCount, hfirst]
  exact Int.ceil_pos.mpr (PyDecimal.quotient_pos job.request.estimatedHours_pos hpos)

theorem slotCount_nonneg (hduration : Lasting request) (job : Job) :
    0 ≤ slotCount request job := by
  by_cases hslots : request.slots = []
  · simp [slotCount, hslots]
  · exact (slotCount_pos hduration hslots job).le

/-! ## Loads -/

/-- The GPUs that a placement of jobs in windows takes in a slot. -/
def placedGpus (placed : List (Job × List Int)) (i : Int) : Int :=
  ((placed.filter fun jobWindow => decide (i ∈ jobWindow.2)).map (·.1.request.gpuCount)).sum

theorem placedGpus_cons (job : Job) (window : List Int) (placed : List (Job × List Int)) (i : Int) :
    placedGpus ((job, window) :: placed) i =
      (if i ∈ window then job.request.gpuCount else 0) + placedGpus placed i := by
  by_cases hi : i ∈ window <;> simp [placedGpus, hi]

theorem placedGpus_nonneg (placed : List (Job × List Int)) (i : Int) : 0 ≤ placedGpus placed i := by
  refine sum_nonneg ?_
  intro gpus hgpus
  obtain ⟨jobWindow, _, rfl⟩ := mem_map.mp hgpus
  exact jobWindow.1.request.gpuCount_nonneg

variable {placed : List (Job × List Int)} {window : List Int} {used' : Dict Int Int}
  {allocations : List Allocation} {allocated : List String} {request' : ScheduleInput}

theorem placedGpus_eq_zero {i : Int} (h : ∀ jobWindow ∈ placed, i ∉ jobWindow.2) :
    placedGpus placed i = 0 := by
  have hfilter : placed.filter (fun jobWindow => decide (i ∈ jobWindow.2)) = [] := by
    simpa [filter_eq_nil_iff] using h
  simp [placedGpus, hfilter]

theorem placedGpus_append (placed : List (Job × List Int)) (job : Job) (window : List Int)
    (i : Int) :
    placedGpus (placed ++ [(job, window)]) i =
      placedGpus placed i + if i ∈ window then job.request.gpuCount else 0 := by
  by_cases hi : i ∈ window <;> simp [placedGpus, hi]

/-! ## Placements -/

structure Describes (allocation : Allocation) (jobWindow : Job × List Int) : Prop where
  id : allocation.jobId = jobWindow.1.id
  window : allocation.slotIndices = jobWindow.2
  gpus : allocation.gpuCount = jobWindow.1.request.gpuCount

structure Places (request : ScheduleInput) (plan : SchedulePlan)
    (placed : List (Job × List Int)) : Prop where
  allocations : List.Forall₂ Describes plan.allocations placed
  jobs : (placed.map Prod.fst).Subperm request.jobs

theorem Places.unique {placed' : List (Job × List Int)} (hids : (request.jobs.map (·.id)).Nodup)
    (h : Places request plan placed) (h' : Places request plan placed') : placed = placed' := by
  have hall : ∀ {allocations : List Allocation} {l l' : List (Job × List Int)},
      List.Forall₂ Describes allocations l → List.Forall₂ Describes allocations l' →
      (∀ jobWindow ∈ l, jobWindow.1 ∈ request.jobs) →
      (∀ jobWindow ∈ l', jobWindow.1 ∈ request.jobs) → l = l' := by
    intro allocations l l' hl
    induction hl generalizing l' with
    | nil =>
      rintro (_ | _) _ _
      rfl
    | @cons allocation jobWindow _ _ hhead _ ih =>
      rintro (_ | @⟨_, jobWindow', _, _, hhead', htail'⟩) hjobs hjobs'
      obtain ⟨hjob, hjobs⟩ := forall_mem_cons.mp hjobs
      obtain ⟨hjob', hjobs'⟩ := forall_mem_cons.mp hjobs'
      have hsame : jobWindow.1 = jobWindow'.1 :=
        inj_on_of_nodup_map hids hjob hjob' (hhead.id.symm.trans hhead'.id)
      rw [ih htail' hjobs hjobs', Prod.ext hsame (hhead.window.symm.trans hhead'.window)]
  have hmem : ∀ {l : List (Job × List Int)}, (l.map Prod.fst).Subperm request.jobs →
      ∀ jobWindow ∈ l, jobWindow.1 ∈ request.jobs :=
    fun hsub _ hin => hsub.subset (mem_map_of_mem hin)
  exact hall h.allocations h'.allocations (hmem h.jobs) (hmem h'.jobs)

/-- Every slot hosts jobs that it admits, and no more than it has GPUs for. -/
structure WithinGpus (request : ScheduleInput) (placed : List (Job × List Int)) : Prop where
  admits : ∀ jobWindow ∈ placed, ∀ slot ∈ request.slots, slot.index ∈ jobWindow.2 →
    Admits jobWindow.1 slot
  gpus : ∀ slot ∈ request.slots, (∃ jobWindow ∈ placed, slot.index ∈ jobWindow.2) →
    placedGpus placed slot.index ≤ slot.gpuCapacity

theorem slot_eq_of_index (hindex : DistinctSlots request) {slot' : TimeSlot}
    (hslot : slot ∈ request.slots) (hslot' : slot' ∈ request.slots) (h : slot.index = slot'.index) :
    slot = slot' :=
  inj_on_of_nodup_map hindex hslot hslot' h

/-! ## The check -/

abbrev Dated (job : Job) (slot : TimeSlot) : Prop :=
  DateTime.Comparable slot.startsAt job.sla.deadline

/-- The slot at a position is open to a job: it starts before the job's
deadline. -/
def OpenAt (request : ScheduleInput) (job : Job) (i : Int) (slot : TimeSlot) : Prop :=
  pyGet? request.slots i = some slot ∧
    DateTime.Comparable slot.startsAt job.sla.deadline ∧
    slot.startsAt.micros < job.sla.deadline.micros

theorem validateSlots_ok (gpuCount : Int) (hnodup : window.Nodup) (used : Dict Int Int)
    (h : ∀ i ∈ window, ∃ slot, OpenAt request job i slot ∧
      ∃ before, used.get? i = some before ∧ before + gpuCount ≤ slot.gpuCapacity) :
    ∃ used', validateSlots request job gpuCount window used = .ok used' ∧
      ∀ i, used'.get? i =
        (used.get? i).map fun before => if i ∈ window then before + gpuCount else before := by
  induction window generalizing used with
  | nil => exact ⟨used, rfl, by simp⟩
  | cons i rest ih =>
    obtain ⟨hi, hrest⟩ := nodup_cons.mp hnodup
    obtain ⟨⟨slot, ⟨hslot, hcomparable, hearly⟩, before, hbefore, hle⟩, htail⟩ :=
      forall_mem_cons.mp h
    -- the later slots of the window are other ones, so their entries are as before
    have hother : ∀ j ∈ rest, (used.set i (before + gpuCount)).get? j = used.get? j :=
      fun j hj => Dict.get?_set_ne _ _ fun heq => hi (heq ▸ hj)
    obtain ⟨used', hused', hget⟩ := ih hrest (used.set i (before + gpuCount)) fun j hj => by
      obtain ⟨slot, hopen, before, hbefore, hle⟩ := htail j hj
      exact ⟨slot, hopen, before, (hother j hj).trans hbefore, hle⟩
    refine ⟨used', ?_, fun j => ?_⟩
    · have hge : slot.startsAt.ge job.sla.deadline = .ok false :=
        DateTime.ge_eq_ok.mpr ⟨hcomparable, by simpa using hearly⟩
      rw [validateSlots, pyIndex_eq_ok.mpr hslot, ok_bind, Dict.getItem_eq_ok.mpr hbefore, ok_bind]
      simp [hle, hge, hused']
    · rw [hget, Dict.get?_set]
      by_cases hj : i = j
      · subst hj
        simp [hi, hbefore]
      · simp [hj, Ne.symm hj]

theorem validateAllocations_ok {allocation : Job × List Int → Allocation}
    (hid : ∀ jobWindow, (allocation jobWindow).jobId = jobWindow.1.id)
    (hwindow : ∀ jobWindow, (allocation jobWindow).slotIndices = jobWindow.2)
    (hcount : ∀ jobWindow, (allocation jobWindow).gpuCount = jobWindow.1.request.gpuCount)
    (placed : List (Job × List Int)) (allocated : List String) (used : Dict Int Int)
    (hids : (placed.map (·.1.id)).Nodup) (hfresh : ∀ jobWindow ∈ placed, jobWindow.1.id ∉ allocated)
    (hjobs : ∀ jobWindow ∈ placed, jobs.get? jobWindow.1.id = some jobWindow.1)
    (hnodup : ∀ jobWindow ∈ placed, jobWindow.2.Nodup)
    (hroom : ∀ jobWindow ∈ placed, ∀ i ∈ jobWindow.2, ∃ slot, OpenAt request jobWindow.1 i slot ∧
      ∃ before, used.get? i = some before ∧ before + placedGpus placed i ≤ slot.gpuCapacity) :
    validateAllocations request jobs (placed.map allocation) allocated used = .ok () := by
  induction placed generalizing allocated used with
  | nil => rfl
  | cons jobWindow rest ih =>
    obtain ⟨job, window⟩ := jobWindow
    obtain ⟨hidhead, hidrest⟩ := nodup_cons.mp hids
    obtain ⟨hfreshhead, hfreshrest⟩ := forall_mem_cons.mp hfresh
    obtain ⟨hjobhead, hjobrest⟩ := forall_mem_cons.mp hjobs
    obtain ⟨hnodhead, hnodrest⟩ := forall_mem_cons.mp hnodup
    obtain ⟨hroomhead, hroomrest⟩ := forall_mem_cons.mp hroom
    obtain ⟨used', hused', hget⟩ := validateSlots_ok job.request.gpuCount
      hnodhead used fun i hi => by
        obtain ⟨slot, hopen, before, hbefore, hle⟩ := hroomhead i hi
        have hnonneg := placedGpus_nonneg rest i
        rw [placedGpus_cons, if_pos hi] at hle
        exact ⟨slot, hopen, before, hbefore, by omega⟩
    rw [map_cons, validateAllocations]
    simp only [hid, hwindow, hcount, hfreshhead, if_false, Dict.getItem_eq_ok.mpr hjobhead,
      ok_bind, hused']
    refine ih (job.id :: allocated) used' hidrest ?_ hjobrest hnodrest ?_
    · intro other hother hmem
      rcases mem_cons.mp hmem with heq | hmem
      · exact hidhead (mem_map.mpr ⟨other, hother, heq⟩)
      · exact hfreshrest other hother hmem
    · intro other hother i hi
      obtain ⟨slot, hopen, before, hbefore, hle⟩ := hroomrest other hother i hi
      rw [placedGpus_cons] at hle
      refine ⟨slot, hopen, _, by rw [hget, hbefore, Option.map_some], ?_⟩
      by_cases hin : i ∈ window <;> simp only [hin, if_true, if_false] at hle ⊢ <;> omega

/-- **A placement within capacity passes the check**, for a request whose
slots carry their own position. -/
theorem validatePlan_ok (allocation : Job × List Int → Allocation) (placed : List (Job × List Int))
    (hid : ∀ jobWindow, (allocation jobWindow).jobId = jobWindow.1.id)
    (hwindow : ∀ jobWindow, (allocation jobWindow).slotIndices = jobWindow.2)
    (hcount : ∀ jobWindow, (allocation jobWindow).gpuCount = jobWindow.1.request.gpuCount)
    (hplan : plan.allocations = placed.map allocation)
    (hindex : DistinctSlots request) (hjobids : (request.jobs.map (·.id)).Nodup)
    (hjobs : ∀ jobWindow ∈ placed, jobWindow.1 ∈ request.jobs) (hids : (placed.map (·.1.id)).Nodup)
    (hnodup : ∀ jobWindow ∈ placed, jobWindow.2.Nodup)
    (hroom : ∀ jobWindow ∈ placed, ∀ i ∈ jobWindow.2, ∃ slot, OpenAt request jobWindow.1 i slot ∧
      slot.index = i ∧ placedGpus placed i ≤ slot.gpuCapacity) :
    validatePlan request plan = .ok () := by
  rw [validatePlan, hplan]
  refine validateAllocations_ok hid hwindow hcount placed [] _ hids (by simp)
    (fun jobWindow h => ?_) hnodup (fun jobWindow h i hi => ?_)
  · refine Dict.get?_ofList ?_ (mem_map.mpr ⟨jobWindow.1, hjobs jobWindow h, rfl⟩)
    simpa [Function.comp_def] using hjobids
  · obtain ⟨slot, hopen, rfl, hle⟩ := hroom jobWindow h i hi
    refine ⟨slot, hopen, 0, ?_, by omega⟩
    refine Dict.get?_ofList ?_ (mem_map.mpr ⟨slot, pyGet?_mem hopen.1, rfl⟩)
    simpa [Function.comp_def] using hindex

/-! ## What the check reads -/

theorem validateSlots_inRange {gpuCount : Int}
    (h : validateSlots request job gpuCount window used = .ok used') :
    ∀ i ∈ window, ∃ slot, pyGet? request.slots i = some slot := by
  induction window generalizing used with
  | nil => simp
  | cons i rest ih =>
    obtain ⟨slot, hslot, h⟩ := bind_eq_ok.mp h
    obtain ⟨before, _, h⟩ := bind_eq_ok.mp h
    refine forall_mem_cons.mpr ⟨⟨slot, pyIndex_eq_ok.mp hslot⟩, ?_⟩
    simp only [except_throw] at h
    split at h
    · cases h
    obtain ⟨late, _, h⟩ := bind_eq_ok.mp h
    cases late with
    | true => cases h
    | false => exact ih h

theorem validateAllocations_inRange
    (h : validateAllocations request jobs allocations allocated used = .ok ()) :
    ∀ allocation ∈ allocations, ∀ i ∈ allocation.slotIndices,
      ∃ slot, pyGet? request.slots i = some slot := by
  induction allocations generalizing allocated used with
  | nil => simp
  | cons allocation rest ih =>
    rw [validateAllocations] at h
    split at h
    · cases h
    · obtain ⟨job, _, h⟩ := bind_eq_ok.mp h
      obtain ⟨used', hslots, h⟩ := bind_eq_ok.mp h
      exact forall_mem_cons.mpr ⟨validateSlots_inRange hslots, ih h⟩

theorem validateAllocations_idle (hidle : ∀ allocation ∈ allocations, allocation.slotIndices = []) :
    validateAllocations request jobs allocations allocated used =
      validateAllocations request' jobs allocations allocated used' := by
  induction allocations generalizing allocated with
  | nil => rfl
  | cons allocation rest ih =>
    obtain ⟨hhead, hrest⟩ := forall_mem_cons.mp hidle
    simp only [validateAllocations, hhead, validateSlots, except_pure, ok_bind]
    split
    · rfl
    · cases jobs.getItem allocation.jobId allocation.jobId with
      | error e => rfl
      | ok job => exact ih hrest

theorem validatePlan_idle {plan' : SchedulePlan} (hjobs : request'.jobs = request.jobs)
    (hplan : plan'.allocations = plan.allocations)
    (hidle : ∀ allocation ∈ plan.allocations, allocation.slotIndices = []) :
    validatePlan request' plan' = validatePlan request plan := by
  rw [validatePlan, validatePlan, hjobs, hplan]
  exact validateAllocations_idle hidle

end ComputeWeaver.Scheduling
