/-
Scheduling.RelabellingTheorems — what happens to a plan when a
constant is added to every slot index.

Both planners treat an index as a NAME while they plan: the capacity tables are
keyed by it and windows are compared by it, so planning commutes with renaming
(`loop_shift`, `jobOptions_shift`). But `validatePlan`, and the cost sum of the
optimizer, use the same number as a POSITION in `request.slots`. Once the
indices have left the range of positions, every plan that uses a slot raises
`IndexError`.
-/
import ComputeWeaver.Scheduling.StrategiesTheorems

namespace ComputeWeaver.Scheduling

open Lib Workloads Optimization TimeSlot Function List ScheduleState

/-! ## Adding a constant to every index -/

def TimeSlot.shift (k : Int) (slot : TimeSlot) : TimeSlot := { slot with index := slot.index + k }

def ScheduleInput.shift (k : Int) (request : ScheduleInput) : ScheduleInput :=
  { request with slots := request.slots.map (TimeSlot.shift k) }

def Allocation.shift (k : Int) (allocation : Allocation) : Allocation :=
  { allocation with slotIndices := allocation.slotIndices.map (· + k) }

/-- The second plan is the first with every allocated index shifted. -/
structure SamePlan (k : Int) (plan plan' : SchedulePlan) : Prop where
  cost : plan'.estimatedCost = plan.estimatedCost
  energy : plan'.energyIntentKwh = plan.energyIntentKwh
  unscheduled : plan'.unscheduled = plan.unscheduled
  allocations : plan'.allocations = plan.allocations.map (Allocation.shift k)

/-- A planner that renames: shifting the slots shifts the plan. -/
def Relabels (planner : ScheduleInput → Except PyError SchedulePlan) (request : ScheduleInput) :
    Prop :=
  ∀ (k : Nat) (plan : SchedulePlan), planner request = .ok plan →
    ∃ plan', planner (request.shift k) = .ok plan' ∧ SamePlan k plan plan'

theorem consecutive_shift (k : Int) (indices : List Int) :
    consecutive (indices.map (· + k)) = consecutive indices := by
  unfold consecutive
  rw [← map_tail, zip_map, all_map]
  congr 1
  funext ab
  simp only [comp_apply, Prod.map_fst, Prod.map_snd]
  exact decide_eq_decide.mpr ⟨fun h => by omega, fun h => by omega⟩

theorem map_index_shift (k : Int) (slots : List TimeSlot) :
    (slots.map (shift k)).map (·.index) = (slots.map (·.index)).map (· + k) := by
  simp [comp_def, shift]

/-! ## The greedy loop renames -/

section

variable {k : Int} {request : ScheduleInput} {price : Bool}

theorem offered_shift (candidates : List TimeSlot) (required : Int) :
    offered price (candidates.map (shift k)) required =
      (offered price candidates required).map (shift k) := by
  -- the orders do not look at the index
  have hsort : ∀ le : TimeSlot → TimeSlot → Bool,
      (∀ a b, le (shift k a) (shift k b) = le a b) → ∀ slots,
      pySorted le (slots.map (shift k)) = (pySorted le slots).map (shift k) :=
    fun le hle slots => pySorted_map (shift k) le le hle slots
  have horder : ∀ slots, pySorted (if price then priceLe else startsLe)
      (slots.map (shift k)) =
        (pySorted (if price then priceLe else startsLe) slots).map (shift k) := by
    cases price with
    | false => exact hsort startsLe fun _ _ => rfl
    | true => exact hsort priceLe fun _ _ => rfl
  rw [offered, horder, pyTake_map, hsort startsLe fun _ _ => rfl, offered]

theorem rejected_shift (job : Job) (required : Int) (selected : List TimeSlot) :
    rejected job required (selected.map (shift k)) = rejected job required selected := by
  simp only [rejected, length_map, map_index_shift, consecutive_shift]

variable {job : Job} {st st' final : ScheduleState} {strategy : String}
  {available' : Dict Int Int} {available : Dict Int Int}

theorem candidate_shift
    (havailable : ∀ i, available'.get? (i + k) = available.get? i) {slot : TimeSlot} {b : Bool}
    (h : candidate available job slot = .ok b) :
    candidate available' job (slot.shift k) = .ok b := by
  obtain ⟨early, hearly, h⟩ := bind_eq_ok.mp h
  refine bind_eq_ok.mpr ⟨early, hearly, ?_⟩
  cases early with
  | false => exact h
  | true =>
    obtain ⟨free, hfree, h⟩ := bind_eq_ok.mp h
    refine bind_eq_ok.mpr ⟨free, Dict.getItem_eq_ok.mpr ?_, h⟩
    exact (havailable slot.index).trans (Dict.getItem_eq_ok.mp hfree)

theorem selectSlots_shift {selection : Option (List TimeSlot)}
    (havailable : ∀ i, available'.get? (i + k) = available.get? i)
    (h : selectSlots request price available job = .ok selection) :
    selectSlots (request.shift k) price available' job =
      .ok (selection.map (List.map (shift k))) := by
  unfold selectSlots at h ⊢
  cases hslots : request.slots with
  | nil =>
    rw [hslots] at h
    cases h
    simp [ScheduleInput.shift, hslots]
  | cons first rest =>
    simp only [hslots] at h
    obtain ⟨required, hrequired, h⟩ := bind_eq_ok.mp h
    obtain ⟨candidates, hcandidates, h⟩ := bind_eq_ok.mp h
    cases h
    have hshifted := filterE_map (q := candidate available' job) (shift k)
      (fun slot _ b hb => candidate_shift havailable hb) hcandidates
    have hneeded : slotsNeeded job (shift k first).durationHours = .ok required :=
      hrequired
    simp only [ScheduleInput.shift, hslots, map_cons, hneeded, ok_bind]
    rw [← map_cons, hshifted, ok_bind, offered_shift]
    rw [rejected_shift, apply_ite (Option.map (List.map (shift k)))]
    rfl

structure Shifted (k : Int) (st st' : ScheduleState) : Prop where
  available : ∀ i, st'.available.get? (i + k) = st.available.get? i
  allocations : st'.allocations = st.allocations.map (Allocation.shift k)
  unscheduled : st'.unscheduled = st.unscheduled
  cost : st'.cost = st.cost
  energy : st'.energy = st.energy

theorem Shifted.start (k : Int) (request : ScheduleInput) :
    Shifted k (.start request) (.start (request.shift k)) where
  available := fun i => by
    have hmap : (request.shift k).slots.map (fun slot => (slot.index, slot.gpuCapacity)) =
        (request.slots.map fun slot => (slot.index, slot.gpuCapacity)).map
          fun kv => (kv.1 + k, kv.2) := by
      simp [ScheduleInput.shift, shift, comp_def]
    simp only [ScheduleState.start, hmap]
    exact Dict.get?_ofList_map (f := fun i => i + k) (add_left_injective k) _ i
  allocations := rfl
  unscheduled := rfl
  cost := rfl
  energy := rfl

theorem Shifted.takeSlots (h : Shifted k st st') (job : Job) (selected : List TimeSlot) :
    Shifted k (selected.foldl (takeSlot job) st)
      ((selected.map (shift k)).foldl (takeSlot job) st') := by
  induction selected generalizing st st' with
  | nil => exact h
  | cons slot rest ih =>
    refine ih ⟨fun i => ?_, h.allocations, h.unscheduled, ?_, ?_⟩
    · simp only [takeSlot, Dict.get?_modify, shift, h.available, add_left_inj]
    · simp only [takeSlot, shift, h.cost]
    · simp only [takeSlot, shift, h.energy]

theorem Shifted.scheduleJob (hst : Shifted k st st')
    (h : scheduleJob request strategy price st job = .ok final) :
    ∃ final', scheduleJob (request.shift k) strategy price st' job = .ok final' ∧
      Shifted k final final' := by
  obtain ⟨selection, hselection, h⟩ := bind_eq_ok.mp h
  have hshifted := selectSlots_shift hst.available hselection
  rw [Scheduling.scheduleJob, hshifted, ok_bind]
  cases selection with
  | none =>
    cases h
    refine ⟨_, rfl, hst.available, hst.allocations, ?_, hst.cost, hst.energy⟩
    simp only [hst.unscheduled]
  | some selected =>
    cases h
    have htaken := hst.takeSlots job selected
    refine ⟨_, rfl, htaken.available, ?_, htaken.unscheduled, htaken.cost, htaken.energy⟩
    simp only [htaken.allocations, map_append, map_cons, map_nil, Allocation.shift, map_index_shift]

theorem loop_shift (jobs : List Job) (hst : Shifted k st st')
    (h : jobs.foldlM (scheduleJob request strategy price) st = .ok final) :
    ∃ final', jobs.foldlM (scheduleJob (request.shift k) strategy price) st' = .ok final' ∧
      Shifted k final final' := by
  induction jobs generalizing st st' with
  | nil =>
    cases h
    exact ⟨st', rfl, hst⟩
  | cons job rest ih =>
    obtain ⟨mid, hmid, h⟩ := bind_eq_ok.mp h
    obtain ⟨mid', hmid', hshifted⟩ := hst.scheduleJob hmid
    obtain ⟨final', hfinal', hend⟩ := ih hshifted h
    exact ⟨final', by rw [foldlM_cons, hmid', ok_bind, hfinal'], hend⟩

theorem loop_allocations (jobs : List Job)
    (h : jobs.foldlM (scheduleJob request strategy price) st = .ok final) :
    ∀ allocation ∈ st.allocations, allocation ∈ final.allocations := by
  induction jobs generalizing st with
  | nil =>
    cases h
    exact fun _ hmem => hmem
  | cons job rest ih =>
    obtain ⟨mid, hmid, h⟩ := bind_eq_ok.mp h
    obtain ⟨selection, _, hmid⟩ := bind_eq_ok.mp hmid
    intro allocation hmem
    refine ih h allocation ?_
    cases selection with
    | none =>
      cases hmid
      exact hmem
    | some selected =>
      cases hmid
      refine mem_append_left _ ?_
      rwa [takeSlots_eq]

theorem map_shift_of_idle {allocations : List Allocation}
    (hidle : ∀ allocation ∈ allocations, allocation.slotIndices = []) :
    allocations.map (Allocation.shift k) = allocations := by
  refine (map_congr_left fun allocation hmem => ?_).trans (List.map_id allocations)
  obtain ⟨jobId, slotIndices, gpuCount, reasonCode⟩ := allocation
  cases hidle _ hmem
  rfl

end

/-! ## Jobs that get a slot -/

section

variable (request : ScheduleInput) (price : Bool) (job : Job)

/-- A job needs a slot and gets one while every slot is free: enough slots
admit it, and the ones it is offered are consecutive unless it can be
checkpointed. -/
structure Placeable : Prop where
  needed : 0 < slotCount request job
  enough : slotCount request job ≤ (admitted request job).length
  together : job.checkpointable ∨
    consecutive ((offered price (admitted request job) (slotCount request job)).map (·.index))

variable {request price job}

section

variable (hindex : (request.slots.map (·.index)).Nodup)
include hindex

theorem candidate_idle {slot : TimeSlot} (hslot : slot ∈ request.slots)
    (hcomparable : Dated job slot) :
    candidate (start request).available job slot =
      .ok (decide (Admits job slot)) := by
  have hfree : (start request).available.get? slot.index = some slot.gpuCapacity :=
    start_capacity hindex hslot
  rw [candidate_of_comparable hcomparable hfree, canHost, hfree]
  simp [admits_iff, mul_comm, Bool.and_assoc]

/-- The loop gives a job a slot while every slot is free exactly when the job
is placeable. -/
theorem selectSlots_idle {selection : Option (List TimeSlot)}
    (h : selectSlots request price (start request).available job = .ok selection) :
    (∀ selected, selection = some selected → selected = []) ↔ ¬ Placeable request price job := by
  unfold selectSlots at h
  split at h
  · rename_i hslots
    cases h
    refine iff_of_true (by simp) ?_
    intro hplace
    simpa [slotCount, hslots] using hplace.needed
  · rename_i first rest hslots
    obtain ⟨required, hrequired, h⟩ := bind_eq_ok.mp h
    obtain ⟨candidates, hcandidates, h⟩ := bind_eq_ok.mp h
    have hcount : slotCount request job = required := slotCount_of_ok hslots hrequired
    have hadmitted : candidates = admitted request job := by
      have hok : filterE (candidate (start request).available job) request.slots =
          .ok (admitted request job) := by
        refine filterE_of_ok ?_
        intro slot hslot
        obtain ⟨b, hb⟩ := filterE_tests hcandidates slot hslot
        obtain ⟨early, hearly, _⟩ := bind_eq_ok.mp hb
        exact candidate_idle hindex hslot (DateTime.lt_eq_ok.mp hearly).1
      rw [hok, Except.ok.injEq] at hcandidates
      exact hcandidates.symm
    subst hadmitted hcount
    cases h
    by_cases hreject : rejected job (slotCount request job)
        (offered price (admitted request job) (slotCount request job)) = true
    · rw [if_pos hreject]
      refine iff_of_true (by simp) ?_
      intro hplace
      have hlength := (offered_length price hplace.needed.le).mpr hplace.enough
      rcases hplace.together with hcheck | hconsecutive
      · simp [rejected, hlength, hcheck] at hreject
      · simp [rejected, hlength, hconsecutive] at hreject
    · rw [if_neg hreject]
      simp only [rejected, Bool.or_eq_true, decide_eq_true_eq, not_or, not_not] at hreject
      obtain ⟨hlength, htogether⟩ := hreject
      constructor
      · intro hall hplace
        rw [hall _ rfl] at hlength
        exact absurd hplace.needed (by simp at hlength; omega)
      · intro hplace selected hselected
        cases hselected
        refine eq_nil_of_length_eq_zero ?_
        by_contra hne
        have hpos : 0 < slotCount request job := by omega
        exact hplace ⟨hpos, (offered_length price hpos.le).mp hlength,
          by simpa [or_iff_not_imp_left] using htogether⟩

/-- As long as the loop has used no slot, every job sees the table the loop
started from. -/
theorem loop_idle_iff {strategy : String} (jobs : List Job) {st final : ScheduleState}
    (h : jobs.foldlM (scheduleJob request strategy price) st = .ok final)
    (hstart : st.available = (start request).available)
    (hst : ∀ allocation ∈ st.allocations, allocation.slotIndices = []) :
    (∀ allocation ∈ final.allocations, allocation.slotIndices = []) ↔
      ∀ job ∈ jobs, ¬ Placeable request price job := by
  induction jobs generalizing st with
  | nil =>
    cases h
    simpa using hst
  | cons job rest ih =>
    obtain ⟨mid, hmid, h⟩ := bind_eq_ok.mp h
    obtain ⟨selection, hselection, hmid⟩ := bind_eq_ok.mp hmid
    rw [forall_mem_cons]
    rw [hstart] at hselection
    rw [← selectSlots_idle hindex hselection]
    cases selection with
    | none =>
      cases hmid
      rw [ih h hstart hst]
      simp
    | some selected =>
      cases hmid
      cases selected with
      | nil =>
        rw [ih h hstart (by simpa [or_imp, forall_and] using hst)]
        simp
      | cons slot slots =>
        -- a used slot stays in the plan
        refine iff_of_false (fun hfinal => ?_) (by simp)
        have hkept := loop_allocations rest h _ (mem_append_right _ mem_cons_self)
        simpa using hfinal _ hkept

end

end

/-! ## The renaming law of the greedy planners -/

section

variable {contentHash : ScheduleInput → String} {request : ScheduleInput} {plan : SchedulePlan}
  {price : Bool}

theorem schedule_relabels_iff (hindex : DistinctSlots request)
    {orderedJobs : List Job} {strategy : String}
    (h : schedule contentHash request orderedJobs strategy price = .ok plan) :
    (∀ k : Nat, ∃ plan',
        schedule contentHash (request.shift k) orderedJobs strategy price = .ok plan' ∧
          SamePlan k plan plan') ↔
      ∀ job ∈ orderedJobs, ¬ Placeable request price job := by
  obtain ⟨st, hst, h⟩ := bind_eq_ok.mp h
  obtain ⟨_, hvalid, h⟩ := bind_eq_ok.mp h
  cases h
  rw [← loop_idle_iff hindex orderedJobs hst rfl (by simp [start])]
  constructor
  · intro hlaw allocation hmem
    by_contra hne
    obtain ⟨i, hi⟩ := exists_mem_of_ne_nil _ hne
    obtain ⟨plan', hplan', hsame⟩ := hlaw (request.slots.length + i.natAbs)
    obtain ⟨_, _, hplan'⟩ := bind_eq_ok.mp hplan'
    obtain ⟨_, hvalid', hplan'⟩ := bind_eq_ok.mp hplan'
    cases hplan'
    obtain ⟨slot, hslot⟩ := validateAllocations_inRange hvalid' (allocation.shift _)
      (hsame.allocations ▸ mem_map_of_mem hmem) _ (mem_map_of_mem hi)
    -- past the last position nothing can be looked up
    rw [pyGet?_of_length_le] at hslot
    · cases hslot
    · simp only [ScheduleInput.shift, length_map]
      omega
  · intro hidle k
    obtain ⟨st', hst', hshifted⟩ := loop_shift orderedJobs (Shifted.start k request) hst
    have hallocations : st'.allocations = st.allocations :=
      hshifted.allocations.trans (map_shift_of_idle hidle)
    have hvalid' :
        validatePlan (request.shift k) (st'.plan contentHash (request.shift k) strategy) =
          .ok () := by
      rw [← hvalid]
      exact validatePlan_idle rfl hallocations hidle
    refine ⟨st'.plan contentHash (request.shift k) strategy, ?_, hshifted.cost, hshifted.energy,
      hshifted.unscheduled, hshifted.allocations⟩
    rw [schedule, hst', ok_bind]
    simp only [hvalid', ok_bind, except_pure]

theorem relabels_iff (hindex : DistinctSlots request)
    {planner : ScheduleInput → Except PyError SchedulePlan} {comparable le : Job → Job → Bool}
    {strategy : String}
    (hplanner : ∀ request, planner request = sortJobs comparable le request.jobs >>=
      fun ordered => schedule contentHash request ordered strategy price)
    (h : planner request = .ok plan) :
    Relabels planner request ↔ ∀ job ∈ request.jobs, ¬ Placeable request price job := by
  rw [hplanner] at h
  obtain ⟨ordered, hordered, h⟩ := bind_eq_ok.mp h
  have hmem : ∀ job, job ∈ ordered ↔ job ∈ request.jobs :=
    fun job => (sortJobs_perm hordered).mem_iff
  have hlaw := schedule_relabels_iff hindex h
  simp only [hmem] at hlaw
  -- the jobs are not renamed, so the shifted run starts from the same order
  have hjobs : ∀ k : Int, (request.shift k).jobs = request.jobs := fun _ => rfl
  simp only [← hlaw, Relabels, hplanner, hjobs, hordered, ok_bind, h, Except.ok.injEq]
  exact ⟨fun hall k => hall k plan rfl, fun hall k plan' heq => heq ▸ hall k⟩

end

/-! ## The windows of the optimizer rename -/

section

variable {k : Int} {request : ScheduleInput}
  {job : Job} {windows : List (List Int)}

theorem jobOptions_shift (h : jobOptions request job = .ok windows) :
    jobOptions (request.shift k) job = .ok (windows.map (List.map (· + k))) := by
  unfold jobOptions at h ⊢
  cases hslots : request.slots with
  | nil =>
    rw [hslots] at h
    cases h
    simp [ScheduleInput.shift, hslots]
  | cons first rest =>
    simp only [hslots] at h
    obtain ⟨needed, hneeded, h⟩ := bind_eq_ok.mp h
    obtain ⟨eligible, heligible, h⟩ := bind_eq_ok.mp h
    obtain ⟨combos, hcombos, h⟩ := bind_eq_ok.mp h
    have hshifted := filterE_map (q := admissible job) (shift k)
      (fun slot _ b hb => hb) heligible
    have hsame : slotsNeeded job (shift k first).durationHours = .ok needed := hneeded
    simp only [ScheduleInput.shift, hslots, map_cons, hsame, ok_bind]
    rw [← map_cons, hshifted, ok_bind, map_index_shift]
    obtain ⟨hnonneg, hsize, rfl⟩ := windowsOf_eq_ok.mp hcombos
    cases h
    rw [windowsOf_eq_ok.mpr ⟨hnonneg, hsize, rfl⟩, ok_bind, combinations_map, List.filter_map]
    simp only [comp_def, consecutive_shift, except_pure]

theorem mapM_jobOptions_shift {jobs : List Job} {options : List (List (List Int))}
    (h : jobs.mapM (jobOptions request) = .ok options) :
    jobs.mapM (jobOptions (request.shift k)) = .ok (options.map (List.map (List.map (· + k)))) := by
  refine mapM_eq_ok.mpr (forall₂_map_right_iff.mpr ?_)
  exact (mapM_eq_ok.mp h).imp fun _ _ => jobOptions_shift

/-- The windows of a job all have one length: either the empty window is the
only one, or none is empty. -/
theorem jobOptions_uniform (h : jobOptions request job = .ok windows) :
    windows = [[]] ∨ ∀ window ∈ windows, window ≠ [] := by
  unfold jobOptions at h
  split at h
  · cases h
    exact .inr (by simp)
  obtain ⟨needed, _, h⟩ := bind_eq_ok.mp h
  obtain ⟨eligible, _, h⟩ := bind_eq_ok.mp h
  obtain ⟨combos, hcombos, h⟩ := bind_eq_ok.mp h
  cases h
  obtain ⟨_, _, rfl⟩ := windowsOf_eq_ok.mp hcombos
  by_cases hzero : needed.toNat = 0
  · rw [hzero, combinations_zero]
    exact .inl (by simp [consecutive])
  · refine .inr fun window hmem hempty => hzero ?_
    rw [← (mem_combinations.mp (mem_filter.mp hmem).1).2, hempty]
    rfl

end

/-! ## The search without windows, and the search out of range -/

section

variable {request : ScheduleInput} {clock : Nat → ℚ} {timeoutSeconds : ℚ}

/-- With only empty windows the search takes its one path. -/
theorem search_unit (request : ScheduleInput) (hclock : ∀ n, expired clock timeoutSeconds n = false)
    (rest : List (Job × List (List Int))) (hrest : ∀ jobWindows ∈ rest, jobWindows.2 = [[]])
    (runningCost : ℚ) (st : SearchState) (hbest : st.best = none) :
    search request clock timeoutSeconds rest runningCost st =
      .ok { st with
        best := some (runningCost, st.current ++ rest.map fun _ => [])
        ticks := st.ticks + rest.length + 1 } := by
  induction rest generalizing runningCost st with
  | nil => simp [search, visit, hclock, hbest]
  | cons jobWindows rest ih =>
    obtain ⟨job, windows⟩ := jobWindows
    obtain ⟨hhead, htail⟩ := forall_mem_cons.mp hrest
    simp only at hhead
    subst hhead
    have hinner := ih htail (runningCost + 0)
      { st with current := st.current ++ [[]], ticks := st.ticks + 1 } hbest
    simp only [add_zero, hbest] at hinner
    simp [search, visit, hclock, hbest, fits, windowCost, reserve, release, hinner]
    omega

/-- When no index is a position, the search raises as soon as it reaches a
window that is not empty: it gets there with all capacity free. -/
theorem search_raises (request : ScheduleInput)
    (hclock : ∀ n, expired clock timeoutSeconds n = false) (rest : List (Job × List (List Int)))
    (runningCost : ℚ) (st : SearchState) (hbest : st.best = none)
    (hwindows : ∀ jobWindows ∈ rest, jobWindows.2 = [[]] ∨
      (jobWindows.2 ≠ [] ∧ ∀ window ∈ jobWindows.2, window ≠ []))
    (hfits : ∀ jobWindows ∈ rest, ∀ window ∈ jobWindows.2,
      fits st.capacity jobWindows.1.request.gpuCount window = .ok true)
    (hrange : ∀ jobWindows ∈ rest, ∀ window ∈ jobWindows.2, ∀ i ∈ window,
      pyGet? request.slots i = none) (hused : ∃ jobWindows ∈ rest, jobWindows.2 ≠ [[]]) :
    search request clock timeoutSeconds rest runningCost st = .error .indexError := by
  induction rest generalizing runningCost st with
  | nil => simp at hused
  | cons jobWindows rest ih =>
    obtain ⟨job, windows⟩ := jobWindows
    obtain ⟨hwhead, hwtail⟩ := forall_mem_cons.mp hwindows
    obtain ⟨hfhead, hftail⟩ := forall_mem_cons.mp hfits
    obtain ⟨hrhead, hrtail⟩ := forall_mem_cons.mp hrange
    simp only at hwhead hfhead hrhead
    rcases hwhead with rfl | ⟨hne, hnonempty⟩
    · have hinner := ih (runningCost + 0)
        { st with current := st.current ++ [[]], ticks := st.ticks + 1 } hbest hwtail hftail hrtail
        (by simpa using hused)
      simp only [add_zero, hbest] at hinner
      simp [search, visit, hclock, hbest, fits, windowCost, reserve, hinner]
    · obtain ⟨window, windows, rfl⟩ := exists_cons_of_ne_nil hne
      obtain ⟨i, window, rfl⟩ := exists_cons_of_ne_nil (hnonempty window mem_cons_self)
      have hfit := hfhead _ mem_cons_self
      have hraise : pyIndex request.slots i = .error .indexError := by
        simp [pyIndex, hrhead _ mem_cons_self i mem_cons_self]
      simp [search, visit, hclock, hbest, hfit, windowCost, hraise]

theorem planEnergy_idle {placed : List (Job × List Int)}
    (hidle : ∀ jobWindow ∈ placed, jobWindow.2 = []) : planEnergy request placed = .ok 0 := by
  have hparts : placed.mapM (fun jobWindow => do
      let slots ← jobWindow.2.mapM (pyIndex request.slots)
      pure (slots.map (slotEnergy jobWindow.1)).sum) = .ok (placed.map fun _ => (0 : ℚ)) := by
    refine mapM_eq_ok.mpr (forall₂_map_right_iff.mpr (forall₂_same.mpr ?_))
    intro jobWindow hmem
    simp [hidle jobWindow hmem]
  rw [planEnergy, hparts, ok_bind]
  simp

end

/-! ## The renaming law of the optimizer -/

/-- The second result is the first with every allocated index shifted. -/
structure SameResult (k : Int) (result result' : OptimizationResult) : Prop where
  status : result'.status = result.status
  plan : Option.Rel (SamePlan k) result.plan result'.plan

section

variable (contentHash : ScheduleInput → String) (request : ScheduleInput) (clock : Nat → ℚ)
  (timeoutSeconds : ℚ)

/-- Shifting the slots shifts the optimizer's plan. -/
def OptimizeRelabels : Prop :=
  ∀ (k : Nat) (result : OptimizationResult),
    optimize contentHash request clock timeoutSeconds = .ok result →
    ∃ result', optimize contentHash (request.shift k) clock timeoutSeconds = .ok result' ∧
      SameResult k result result'

/-- Some window takes as many slots as the job needs out of those that admit
it, consecutive ones unless it can be checkpointed. -/
def HasWindow (job : Job) : Prop :=
  request.slots ≠ [] ∧ ∃ window : List Int,
    window.Sublist ((admitted request job).map (·.index)) ∧
      (window.length : Int) = slotCount request job ∧ (job.checkpointable ∨ consecutive window)

/-- Some job has no window at all, or no job needs a slot. -/
def NoWindowUsed : Prop :=
  (∃ job ∈ request.jobs, ¬ HasWindow request job) ∨ ∀ job ∈ request.jobs, slotCount request job = 0

variable {request clock timeoutSeconds} {options : List (List (List Int))}
  {job : Job} {windows : List (List Int)}

theorem hasWindow_iff (h : jobOptions request job = .ok windows) :
    HasWindow request job ↔ windows ≠ [] := by
  constructor
  · rintro ⟨hslots, window, hsub, hlength, htogether⟩ rfl
    cases (mem_jobOptions h).mpr ⟨hslots, hsub, hlength, htogether⟩
  · intro hne
    obtain ⟨window, hwindow⟩ := exists_mem_of_ne_nil windows hne
    obtain ⟨hslots, hwindow⟩ := (mem_jobOptions h).mp hwindow
    exact ⟨hslots, window, hwindow⟩

/-- Where there are windows, the empty one is the only one exactly when the
job needs no slot. -/
theorem unit_iff (h : jobOptions request job = .ok windows) (hne : windows ≠ []) :
    windows = [[]] ↔ slotCount request job = 0 := by
  obtain ⟨window, hwindow⟩ := exists_mem_of_ne_nil windows hne
  have hlength := ((mem_jobOptions h).mp hwindow).2.2.1
  constructor
  · rintro rfl
    rw [← hlength, mem_singleton.mp hwindow]
    rfl
  · intro hzero
    refine (jobOptions_uniform h).resolve_right fun hnonempty => hnonempty window hwindow ?_
    exact eq_nil_of_length_eq_zero (by omega)

theorem noWindowUsed_iff (hoptions : Options request options) :
    NoWindowUsed request ↔ [] ∈ options ∨ ∀ windows ∈ options, windows = [[]] := by
  have hsome : (∃ job ∈ request.jobs, ¬ HasWindow request job) ↔ [] ∈ options := by
    constructor
    · rintro ⟨job, hjob, hnone⟩
      obtain ⟨windows, hmem, hwindows⟩ := exists_of_mapM_eq_ok hoptions hjob
      rw [hasWindow_iff hwindows, not_not] at hnone
      exact hnone ▸ hmem
    · intro hmem
      obtain ⟨job, hjob, hwindows⟩ := mem_of_mapM_eq_ok hoptions hmem
      exact ⟨job, hjob, by simp [hasWindow_iff hwindows]⟩
  rw [NoWindowUsed, hsome]
  by_cases hempty : [] ∈ options
  · simp [hempty]
  refine or_congr_right ⟨fun h windows hmem => ?_, fun h job hjob => ?_⟩
  · obtain ⟨job, hjob, hwindows⟩ := mem_of_mapM_eq_ok hoptions hmem
    exact (unit_iff hwindows fun heq => hempty (heq ▸ hmem)).mpr (h job hjob)
  · obtain ⟨windows, hmem, hwindows⟩ := exists_of_mapM_eq_ok hoptions hjob
    exact (unit_iff hwindows fun heq => hempty (heq ▸ hmem)).mp (h windows hmem)

def idlePlan (request : ScheduleInput) : SchedulePlan :=
  planOf contentHash request 0 0 (request.jobs.map fun job => (job, []))

theorem zip_idle (jobs : List Job) (options : List (List (List Int)))
    (hlength : jobs.length = options.length) :
    jobs.zip ((jobs.zip options).map fun _ => ([] : List Int)) = jobs.map fun job => (job, []) := by
  induction jobs generalizing options with
  | nil => rfl
  | cons job jobs ih =>
    obtain _ | ⟨windows, options⟩ := options
    · cases hlength
    · simp only [zip_cons_cons, map_cons, ih options (by simpa using hlength)]

theorem optimize_unit (hclock : ∀ n, expired clock timeoutSeconds n = false)
    (hoptions : Options request options) (hunit : ∀ windows ∈ options, windows = [[]]) :
    ∃ runtime, optimize contentHash request clock timeoutSeconds =
      (validatePlan request (idlePlan contentHash request) >>= fun _ =>
        pure (planResult runtime false (idlePlan contentHash request))) := by
  have hempty : [] ∉ options := fun hmem => by cases hunit [] hmem
  have hsearch := search_unit request hclock (request.jobs.zip options)
    (fun jobWindows hmem => hunit _ (of_mem_zip hmem).2) 0 (.start request) rfl
  refine ⟨clock ((request.jobs.zip options).length + 1 + 1) - clock 0, ?_⟩
  rw [optimize, hoptions, ok_bind]
  simp only [noWindow_iff hoptions, if_neg hempty, hsearch, ok_bind, conclude]
  simp only [SearchState.start, nil_append, zip_idle request.jobs options (options_length hoptions)]
  rw [planEnergy_idle (by simp), ok_bind]
  simp only [Nat.zero_add, idlePlan]

theorem idlePlan_idle :
    ∀ allocation ∈ (idlePlan contentHash request).allocations, allocation.slotIndices = [] := by
  simp [idlePlan, planOf, allocationOf]

/-- Far enough out, the optimizer raises for every request with a window that
needs a slot. -/
theorem optimize_raises (hindex : DistinctSlots request)
    (hclock : ∀ n, expired clock timeoutSeconds n = false) (hoptions : Options request options)
    (hempty : [] ∉ options) (hused : ∃ windows ∈ options, windows ≠ [[]]) :
    ∃ k : Nat, optimize contentHash (request.shift k) clock timeoutSeconds =
      .error .indexError := by
  refine ⟨request.slots.length + (request.slots.map (·.index.natAbs)).sum, ?_⟩
  generalize hk :
    ((request.slots.length + (request.slots.map (·.index.natAbs)).sum : Nat) : Int) = k
  have hoptions' := mapM_jobOptions_shift (k := k) hoptions
  have hempty' : [] ∉ options.map (List.map (List.map (· + k))) := by
    simpa using hempty
  have hindex' : ((request.shift k).slots.map (·.index)).Nodup := by
    rw [ScheduleInput.shift, map_index_shift]
    exact hindex.map (add_left_injective k)
  have hsearch := search_raises (request.shift k) hclock
    (request.jobs.zip (options.map (List.map (List.map (· + k))))) 0 (.start (request.shift k)) rfl
    (fun jobWindows hmem =>
      (jobOptions_uniform (mapM_eq_ok_zip hoptions' hmem)).imp_right fun hne =>
        ⟨fun heq => hempty' (heq ▸ (of_mem_zip hmem).2), hne⟩)
    (fun jobWindows hmem window hwindow => by
      refine fits_eq_ok_true.mpr ?_
      intro i hi
      obtain ⟨slot, hslot, rfl, hadmits, _⟩ :=
        jobOptions_admits (mapM_eq_ok_zip hoptions' hmem) hwindow hi
      exact ⟨_, start_capacity hindex' hslot, hadmits.gpus⟩)
    (fun jobWindows hmem window hwindow i hi => by
      obtain ⟨slot', hslot', rfl, _, _⟩ :=
        jobOptions_admits (mapM_eq_ok_zip hoptions' hmem) hwindow hi
      obtain ⟨slot, hslot, rfl⟩ := mem_map.mp hslot'
      have hle : slot.index.natAbs ≤ (request.slots.map (·.index.natAbs)).sum :=
        le_sum_of_mem
          (mem_map_of_mem (f := fun slot : TimeSlot => slot.index.natAbs) hslot)
      refine pyGet?_of_length_le _ ?_
      simp only [ScheduleInput.shift, length_map, shift]
      omega)
    (by
      obtain ⟨windows, hmem, hne⟩ := hused
      have hmem' := mem_map_of_mem (f := List.map (List.map (· + k))) hmem
      rw [← map_snd_zip (options_length hoptions').ge] at hmem'
      obtain ⟨jobWindows, hzip, heq⟩ := mem_map.mp hmem'
      refine ⟨jobWindows, hzip, fun hunit => hne ?_⟩
      simpa [map_eq_singleton_iff] using heq.symm.trans hunit)
  rw [optimize, show (request.shift k).jobs = request.jobs from rfl, hoptions', ok_bind]
  have hnoWindow := @noWindow_iff (request.shift k) _ hoptions'
  rw [show (request.shift k).jobs = request.jobs from rfl] at hnoWindow
  simp only [hnoWindow, if_neg hempty', hsearch, error_bind]

theorem optimizeRelabels_iff (hindex : DistinctSlots request)
    (hclock : ∀ n, expired clock timeoutSeconds n = false) {result : OptimizationResult}
    (h : optimize contentHash request clock timeoutSeconds = .ok result) :
    OptimizeRelabels contentHash request clock timeoutSeconds ↔ NoWindowUsed request := by
  obtain ⟨options, hoptions, _⟩ := optimize_outcome contentHash clock timeoutSeconds h
  have hjobs : ∀ k : Int, (request.shift k).jobs = request.jobs := fun _ => rfl
  rw [noWindowUsed_iff hoptions]
  constructor
  · intro hlaw
    by_contra hcond
    rw [not_or] at hcond
    obtain ⟨k, hraise⟩ := optimize_raises contentHash hindex hclock hoptions hcond.1
      (by simpa using hcond.2)
    obtain ⟨result', hresult', _⟩ := hlaw k result h
    rw [hraise] at hresult'
    cases hresult'
  · rintro (hempty | hunit) k result hresult
    · rw [optimize_noWindow contentHash clock timeoutSeconds hoptions hempty] at hresult
      cases hresult
      have hempty' : [] ∈ options.map (List.map (List.map (· + (k : Int)))) := by simpa using hempty
      exact ⟨_, optimize_noWindow contentHash clock timeoutSeconds
        (mapM_jobOptions_shift hoptions) hempty', rfl, .none⟩
    · have hunit' : ∀ windows ∈ options.map (List.map (List.map (· + (k : Int)))),
          windows = [[]] := by
        intro windows hmem
        obtain ⟨old, hold, rfl⟩ := mem_map.mp hmem
        rw [hunit old hold]
        rfl
      obtain ⟨runtime, heq⟩ := optimize_unit contentHash hclock hoptions hunit
      obtain ⟨runtime', heq'⟩ := @optimize_unit contentHash (request.shift k) clock
        timeoutSeconds _ hclock (mapM_jobOptions_shift hoptions) hunit'
      rw [heq] at hresult
      obtain ⟨_, hvalid, hresult⟩ := bind_eq_ok.mp hresult
      cases hresult
      have hvalid' : validatePlan (request.shift k) (idlePlan contentHash (request.shift k)) =
          .ok () := by
        rw [← hvalid]
        exact validatePlan_idle rfl rfl (idlePlan_idle contentHash)
      rw [hvalid', ok_bind, except_pure] at heq'
      refine ⟨_, heq', rfl, .some ⟨rfl, rfl, rfl, ?_⟩⟩
      exact (map_shift_of_idle (idlePlan_idle contentHash)).symm

end

/-- **When relabelling is sound.** For a request with distinct slot indices,
a clock that never expires and a planner that returns on the request: adding
a constant to every index shifts the optimizer's plan for every constant
exactly when some job has no window or no job needs a slot, and shifts a
greedy plan for every constant exactly when no job that needs a slot can be
placed. -/
theorem relabelling_law_iff (contentHash : ScheduleInput → String) (request : ScheduleInput)
    (clock : Nat → ℚ) (timeoutSeconds : ℚ) (hindex : (request.slots.map (·.index)).Nodup)
    (hclock : ∀ n, expired clock timeoutSeconds n = false) :
    (∀ result, optimize contentHash request clock timeoutSeconds = .ok result →
      (OptimizeRelabels contentHash request clock timeoutSeconds ↔ NoWindowUsed request)) ∧
    (∀ plan, scheduleFifo contentHash request = .ok plan →
      (Relabels (scheduleFifo contentHash) request ↔
        ∀ job ∈ request.jobs, ¬ Placeable request false job)) ∧
    (∀ plan, schedulePriorityEdf contentHash request = .ok plan →
      (Relabels (schedulePriorityEdf contentHash) request ↔
        ∀ job ∈ request.jobs, ¬ Placeable request false job)) ∧
    (∀ plan, schedulePriceAware contentHash request = .ok plan →
      (Relabels (schedulePriceAware contentHash) request ↔
        ∀ job ∈ request.jobs, ¬ Placeable request true job)) :=
  ⟨fun _ h => optimizeRelabels_iff contentHash hindex hclock h,
   fun _ h => relabels_iff hindex (fun _ => rfl) h,
   fun _ h => relabels_iff hindex (fun _ => rfl) h,
   fun _ h => relabels_iff hindex (fun _ => rfl) h⟩

def singleSlotInput : ScheduleInput where
  jobs := [.simple "job-a" 1 1 10]
  slots := [.simple 0 1 5 2]
  topologyVersion := 1
  forecastVersion := "forecast-1"

/-- Its slot without GPUs. -/
def emptySlotInput : ScheduleInput := { singleSlotInput with slots := [.simple 0 0 5 2] }

theorem relabelling_law_iff_emptySlotInput :
    Relabels (scheduleFifo fun _ => "hash") emptySlotInput := by
  have hleft : SchedulePlan.unscheduled <$> scheduleFifo (fun _ => "hash") emptySlotInput =
      .ok ["job-a"] := by decide +kernel
  obtain ⟨plan, hplan, _⟩ := map_eq_ok.mp hleft
  have hlaw := relabelling_law_iff (fun _ => "hash") emptySlotInput (fun _ => 0) 10 (by decide)
    fun _ => by simp [expired]
  refine (hlaw.2.1 plan hplan).mpr fun job hjob hplaceable => ?_
  obtain rfl := mem_singleton.mp hjob
  exact absurd hplaceable.enough (by decide +kernel)

/-- Slot 0 renamed to slot 1: every planner returns before and raises after. -/
theorem shifted_slot_raises :
    ((optimize (fun _ => "hash") singleSlotInput (fun _ => 0) 10).isOk ∧
      optimize (fun _ => "hash") (singleSlotInput.shift 1) (fun _ => 0) 10 = .error .indexError) ∧
    ((scheduleFifo (fun _ => "hash") singleSlotInput).isOk ∧
      scheduleFifo (fun _ => "hash") (singleSlotInput.shift 1) = .error .indexError) ∧
    ((schedulePriorityEdf (fun _ => "hash") singleSlotInput).isOk ∧
      schedulePriorityEdf (fun _ => "hash") (singleSlotInput.shift 1) = .error .indexError) ∧
    ((schedulePriceAware (fun _ => "hash") singleSlotInput).isOk ∧
      schedulePriceAware (fun _ => "hash") (singleSlotInput.shift 1) = .error .indexError) := by
  decide +kernel

end ComputeWeaver.Scheduling
