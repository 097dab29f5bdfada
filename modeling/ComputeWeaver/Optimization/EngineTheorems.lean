/-
Optimization.EngineTheorems — correctness of the optimizer.

The mutable search of `Engine.lean` is an instance of the branch and bound of
`Lib.BranchBound` (`search_restores`): every call leaves the capacity table and
the current choices as it found them, and what it records is what the pure
search records. The library then says what that is: a leaf of the decision tree
for every clock, and the first leaf of minimum cost when the clock never
expired.
-/
import Mathlib.Algebra.BigOperators.Ring.List
import ComputeWeaver.Lib.BranchBound
import ComputeWeaver.Optimization.Engine
import ComputeWeaver.Scheduling.ContractsTheorems

namespace ComputeWeaver.Optimization

open Lib Workloads Scheduling Dict BranchBound.Progress BranchBound List

/-! ## The windows of a job -/

theorem admissible_eq (job : Job) (slot : TimeSlot) :
    admissible job slot =
      if Dated job slot then .ok (decide (Admits job slot))
      else .error .typeError := by
  unfold admissible DateTime.lt
  by_cases hcomparable : Dated job slot
  · by_cases hearly : slot.startsAt.micros < job.sla.deadline.micros
    · simp [hcomparable, hearly, admits_iff]
    · simp [hcomparable, hearly, admits_iff]
  · simp [hcomparable]

abbrev Options (request : ScheduleInput) (options : List (List (List Int))) : Prop :=
  request.jobs.mapM (jobOptions request) = .ok options

variable {job : Job} {request : ScheduleInput} {options : List (List Int)} {window : List Int}
  {windows : List (List Int)} {i : Int} {slot : TimeSlot}

theorem admissible_eq_ok {b : Bool} :
    admissible job slot = .ok b ↔ Dated job slot ∧ b = decide (Admits job slot) := by
  rw [admissible_eq]
  split
  · rename_i hcomparable
    simp [hcomparable, eq_comm]
  · rename_i hcomparable
    simp [hcomparable]

theorem eligible_eq_ok {slots eligible : List TimeSlot} :
    filterE (admissible job) slots = .ok eligible ↔
      (∀ slot ∈ slots, Dated job slot) ∧
        eligible = slots.filter fun slot => decide (Admits job slot) := by
  have hok : (∀ slot ∈ slots, Dated job slot) →
      filterE (admissible job) slots =
        .ok (slots.filter fun slot => decide (Admits job slot)) := fun hcomparable =>
    filterE_of_ok fun slot hslot => admissible_eq_ok.mpr ⟨hcomparable slot hslot, rfl⟩
  constructor
  · intro h
    have hcomparable : ∀ slot ∈ slots, Dated job slot :=
      fun slot hslot => by
        obtain ⟨b, hb⟩ := filterE_tests h slot hslot
        exact (admissible_eq_ok.mp hb).1
    rw [hok hcomparable, Except.ok.injEq] at h
    exact ⟨hcomparable, h.symm⟩
  · rintro ⟨hcomparable, rfl⟩
    exact hok hcomparable

theorem windowsOf_eq_ok {indices : List Int} {needed : Int} {windows : List (List Int)} :
    windowsOf indices needed = .ok windows ↔
      0 ≤ needed ∧ needed ≤ maxsize ∧ windows = combinations indices needed.toNat := by
  unfold windowsOf
  split
  · rename_i hlarge
    simp only [except_throw, reduceCtorEq, false_iff]
    rintro ⟨hnonneg, hsize, _⟩
    rw [abs_of_nonneg hnonneg] at hlarge
    exact absurd hsize (not_le.mpr hlarge)
  rename_i hsmall
  have hsize := (le_abs_self needed).trans (not_lt.mp hsmall)
  split
  · simp [except_throw]
    omega
  · rename_i hnonneg
    simp [not_lt.mp hnonneg, hsize, except_pure, eq_comm]

section

variable (h : jobOptions request job = .ok options)
include h

/-- What the windows of a job are: as many slots as it needs out of those
that admit it, consecutive ones unless it can be checkpointed. -/
theorem mem_jobOptions :
    window ∈ options ↔ request.slots ≠ [] ∧
      window.Sublist ((admitted request job).map (·.index)) ∧
      (window.length : Int) = slotCount request job ∧
      (job.checkpointable ∨ consecutive window) := by
  unfold jobOptions at h
  split at h
  · rename_i hslots
    cases h
    simp [hslots]
  rename_i first rest hslots
  obtain ⟨needed, hneeded, h⟩ := bind_eq_ok.mp h
  obtain ⟨eligible, heligible, h⟩ := bind_eq_ok.mp h
  obtain ⟨windows, hwindows, h⟩ := bind_eq_ok.mp h
  obtain ⟨_, rfl⟩ := eligible_eq_ok.mp heligible
  have hcount : slotCount request job = needed := slotCount_of_ok hslots hneeded
  obtain ⟨hnonneg, _, rfl⟩ := windowsOf_eq_ok.mp hwindows
  cases h
  have hlength : window.length = needed.toNat ↔ (window.length : Int) = needed := by omega
  rw [mem_filter, mem_combinations, hlength, ← hcount]
  simp [hslots, admitted, and_assoc]

/-- A job whose windows are enumerated has a number of slots that
`itertools.combinations` takes. -/
theorem jobOptions_count : slotCount request job ≤ maxsize := by
  unfold jobOptions at h
  split at h
  · rename_i hslots
    simp [slotCount, hslots, maxsize]
  rename_i first rest hslots
  obtain ⟨needed, hneeded, h⟩ := bind_eq_ok.mp h
  obtain ⟨eligible, _, h⟩ := bind_eq_ok.mp h
  obtain ⟨windows, hwindows, _⟩ := bind_eq_ok.mp h
  rw [slotCount_of_ok hslots hneeded]
  exact (windowsOf_eq_ok.mp hwindows).2.1

theorem jobOptions_comparable :
    ∀ slot ∈ request.slots, Dated job slot := by
  unfold jobOptions at h
  split at h
  · rename_i hslots
    simp [hslots]
  · obtain ⟨needed, _, h⟩ := bind_eq_ok.mp h
    obtain ⟨eligible, heligible, _⟩ := bind_eq_ok.mp h
    exact (eligible_eq_ok.mp heligible).1

theorem jobOptions_admits (hw : window ∈ options) (hi : i ∈ window) :
    ∃ slot ∈ request.slots, slot.index = i ∧ Admits job slot ∧ Dated job slot := by
  obtain ⟨_, hsub, _⟩ := (mem_jobOptions h).mp hw
  obtain ⟨slot, hslot, rfl⟩ := mem_map.mp (hsub.subset hi)
  obtain ⟨hmem, hadmits⟩ := mem_admitted.mp hslot
  exact ⟨slot, hmem, rfl, hadmits, jobOptions_comparable h slot hmem⟩

end

theorem jobOptions_nodup (hindex : DistinctSlots request)
    (h : jobOptions request job = .ok options) (hw : window ∈ options) : window.Nodup :=
  hindex.sublist (((mem_jobOptions h).mp hw).2.1.trans (filter_sublist.map _))

/-- Windows read nothing of a slot but its index, its duration and whether it
admits the job. -/
theorem jobOptions_map (change : TimeSlot → TimeSlot)
    (hindex : ∀ slot, (change slot).index = slot.index)
    (hduration : ∀ slot, (change slot).durationHours = slot.durationHours)
    (hadmissible : ∀ slot, admissible job (change slot) = admissible job slot)
    (h : jobOptions request job = .ok windows) :
    jobOptions { request with slots := request.slots.map change } job = .ok windows := by
  unfold jobOptions at h ⊢
  cases hslots : request.slots with
  | nil =>
    rw [hslots] at h
    exact h
  | cons first rest =>
    simp only [hslots] at h
    obtain ⟨needed, hneeded, h⟩ := bind_eq_ok.mp h
    obtain ⟨eligible, heligible, h⟩ := bind_eq_ok.mp h
    have hchanged : filterE (admissible job) ((first :: rest).map change) =
        .ok (eligible.map change) :=
      filterE_map change (fun slot _ b hb => (hadmissible slot).trans hb) heligible
    have hindices : (eligible.map change).map (·.index) = eligible.map (·.index) := by
      simp [Function.comp_def, hindex]
    simp only [map_cons, hduration, hneeded, ok_bind]
    rw [← map_cons, hchanged, ok_bind, hindices]
    exact h

/-! ## Capacity bookkeeping -/

variable {capacity : Dict Int Int} {gpuCount : Int} {choice : List Int}
  {result : OptimizationResult} {jobWindow : Job × List Int}

theorem fits_eq_ok_true :
    fits capacity gpuCount choice = .ok true ↔
      ∀ i ∈ choice, ∃ free, capacity.get? i = some free ∧ gpuCount ≤ free := by
  induction choice with
  | nil => simp [fits]
  | cons slot rest ih =>
    rw [fits, bind_eq_ok, forall_mem_cons, ← ih]
    constructor
    · rintro ⟨free, hfree, h⟩
      split at h
      · rename_i hle
        exact ⟨⟨free, getItem_eq_ok.mp hfree, hle⟩, h⟩
      · cases h
    · rintro ⟨⟨free, hfree, hle⟩, hrest⟩
      exact ⟨free, getItem_eq_ok.mpr hfree, by rw [if_pos hle, hrest]⟩

/-- The test only raises for a slot without an entry. -/
theorem fits_ok (capacity : Dict Int Int) (gpuCount : Int) (choice : List Int)
    (h : ∀ i ∈ choice, ∃ free, capacity.get? i = some free) :
    ∃ b, fits capacity gpuCount choice = .ok b := by
  induction choice with
  | nil => exact ⟨true, rfl⟩
  | cons slot rest ih =>
    obtain ⟨⟨free, hfree⟩, hrest⟩ := forall_mem_cons.mp h
    rw [fits, getItem_eq_ok.mpr hfree, ok_bind]
    split
    · exact ih hrest
    · exact ⟨false, rfl⟩

theorem get?_reserve (hnodup : choice.Nodup) (i : Int) :
    (reserve capacity gpuCount choice).get? i =
      (capacity.get? i).map fun free => if i ∈ choice then free - gpuCount else free := by
  induction choice generalizing capacity with
  | nil => simp [reserve]
  | cons slot rest ih =>
    obtain ⟨hslot, hrest⟩ := nodup_cons.mp hnodup
    rw [reserve, foldl_cons, ← reserve, ih hrest, get?_modify]
    by_cases hi : slot = i
    · subst hi
      simp [hslot, Function.comp_def]
    · simp [hi, Ne.symm hi]

theorem release_reserve (capacity : Dict Int Int) (gpuCount : Int) (choice : List Int) :
    release (reserve capacity gpuCount choice) gpuCount choice = capacity := by
  induction choice generalizing capacity with
  | nil => rfl
  | cons slot rest ih =>
    -- the first slot is released right after the LAST one was reserved
    have hswap : ∀ (l : List Int) (d : Dict Int Int),
        (reserve d gpuCount l).modify slot (· + gpuCount) =
          reserve (d.modify slot (· + gpuCount)) gpuCount l := by
      intro l
      induction l with
      | nil => exact fun d => rfl
      | cons s l ih =>
        intro d
        rw [reserve, foldl_cons, ← reserve, ih, modify_comm _ _ _ _ _ (fun v => by omega)]
        rfl
    rw [reserve, foldl_cons, ← reserve, release, foldl_cons, ← release, hswap,
      modify_modify_cancel _ _ _ _ (fun v => by omega), ih]

/-! ## The search is a branch and bound -/

section

variable (request : ScheduleInput) (clock : Nat → ℚ) (timeoutSeconds : ℚ)

/-- The cost of a window; windows that raise do not occur in a finished
search. -/
def priceOf (job : Job) (window : List Int) : ℚ :=
  match windowCost request job window with
  | .ok cost => cost
  | .error _ => 0

variable {request} in
/-- Slots whose costs have all changed by a factor change the cost of a window by
it. -/
theorem priceOf_map (change : TimeSlot → TimeSlot) {factor : ℚ}
    (hcost : ∀ slot, slotCost job (change slot) = factor * slotCost job slot) (window : List Int) :
    priceOf { request with slots := request.slots.map change } job window =
      factor * priceOf request job window := by
  have hread : window.mapM (pyIndex (request.slots.map change)) =
      List.map change <$> window.mapM (pyIndex request.slots) := by
    induction window with
    | nil => rfl
    | cons i rest ih =>
      rw [mapM_cons, mapM_cons, pyIndex_map, ih]
      cases pyIndex request.slots i with
      | error e => rfl
      | ok slot => cases rest.mapM (pyIndex request.slots) <;> rfl
  rw [priceOf, windowCost, hread, priceOf, windowCost]
  cases window.mapM (pyIndex request.slots) with
  | error e => exact (mul_zero factor).symm
  | ok slots =>
    have hsum : ((slots.map change).map (slotCost job)).sum =
        factor * (slots.map (slotCost job)).sum := by
      rw [map_map, ← sum_map_mul_left]
      congr 1
      exact map_congr_left fun slot _ => hcost slot
    exact hsum

/-- The decisions of the search: one job after the other. -/
def problem : BranchBound.Problem (Job × List (List Int)) (List Int) (Dict Int Int) ℚ where
  options := Prod.snd
  place jobOptions window capacity :=
    match fits capacity jobOptions.1.request.gpuCount window with
    | .ok true => some (reserve capacity jobOptions.1.request.gpuCount window)
    | _ => none
  cost jobOptions window := priceOf request jobOptions.1 window

variable {capacity : Dict Int Int} {jobOptions : Job × List (List Int)}

theorem place_of_fits
    (h : fits capacity jobOptions.1.request.gpuCount window = .ok true) :
    (problem request).place jobOptions window capacity =
      some (reserve capacity jobOptions.1.request.gpuCount window) := by
  simp [problem, h]

theorem place_of_not_fits
    (h : fits capacity jobOptions.1.request.gpuCount window ≠ .ok true) :
    (problem request).place jobOptions window capacity = none := by
  simp only [problem]

def SearchState.progress (st : SearchState) : BranchBound.Progress (List Int) ℚ :=
  ⟨st.best, st.timedOut, st.ticks⟩

/-- `f` leaves the capacity and the current choices as it found them, and
records what `g` does. -/
def Restores (f : SearchState → Except PyError SearchState)
    (g : Dict Int Int → List (List Int) → BranchBound.Progress (List Int) ℚ →
      BranchBound.Progress (List Int) ℚ) : Prop :=
  ∀ st st', f st = .ok st' → st'.capacity = st.capacity ∧ st'.current = st.current ∧
    st'.progress = g st.capacity st.current st.progress

variable {request clock timeoutSeconds}

theorem Restores.visit {runningCost : ℚ} {f : SearchState → Except PyError SearchState}
    {g : Dict Int Int → List (List Int) → BranchBound.Progress (List Int) ℚ →
      BranchBound.Progress (List Int) ℚ} (h : Restores f g) :
    Restores (visit clock timeoutSeconds runningCost f) fun capacity current =>
      BranchBound.enter (expired clock timeoutSeconds) runningCost (g capacity current) := by
  intro st st' hst
  unfold Optimization.visit at hst
  unfold BranchBound.enter
  split at hst
  · rename_i hclock
    cases hst
    exact ⟨rfl, rfl, (if_pos hclock).symm⟩
  rename_i hclock
  split at hst
  · rename_i hprune
    cases hst
    exact ⟨rfl, rfl, ((if_neg hclock).trans (if_pos hprune)).symm⟩
  · rename_i hprune
    obtain ⟨hcapacity, hcurrent, hprogress⟩ := h _ _ hst
    exact ⟨hcapacity, hcurrent, hprogress.trans ((if_neg hclock).trans (if_neg hprune)).symm⟩

theorem Restores.foldlM {f : List Int → SearchState → Except PyError SearchState}
    {g : List Int → Dict Int Int → List (List Int) → BranchBound.Progress (List Int) ℚ →
      BranchBound.Progress (List Int) ℚ} (h : ∀ choice, Restores (f choice) (g choice))
    (options : List (List Int)) :
    Restores (fun st => options.foldlM (fun st choice => f choice st) st)
      fun capacity current p => options.foldl (fun p choice => g choice capacity current p) p := by
  induction options with
  | nil =>
    intro st st' hst
    cases hst
    exact ⟨rfl, rfl, rfl⟩
  | cons choice rest ih =>
    intro st st' hst
    obtain ⟨mid, hmid, hrest⟩ := bind_eq_ok.mp hst
    obtain ⟨hcapacity, hcurrent, hprogress⟩ := h choice st mid hmid
    obtain ⟨hcapacity', hcurrent', hprogress'⟩ := ih mid st' hrest
    refine ⟨hcapacity'.trans hcapacity, hcurrent'.trans hcurrent, hprogress'.trans ?_⟩
    rw [hprogress, hcapacity, hcurrent]
    rfl

/-- **Backtracking restores the state**, and the search records what the pure
branch and bound over the same windows records. -/
theorem search_restores (rest : List (Job × List (List Int))) (runningCost : ℚ) :
    Restores (search request clock timeoutSeconds rest runningCost) fun capacity current =>
      BranchBound.search (problem request) (expired clock timeoutSeconds) rest capacity current
        runningCost := by
  induction rest generalizing runningCost with
  | nil =>
    refine Restores.visit ?_
    intro st st' hst
    cases hst
    exact ⟨rfl, rfl, rfl⟩
  | cons jobOptions rest ih =>
    obtain ⟨job, options⟩ := jobOptions
    refine Restores.visit (Restores.foldlM (fun choice st st' hst => ?_) options)
    obtain ⟨b, hfits, hst⟩ := bind_eq_ok.mp hst
    cases b with
    | false =>
      cases hst
      refine ⟨rfl, rfl, ?_⟩
      rw [place_of_not_fits request (by rw [hfits]; simp)]
    | true =>
      obtain ⟨cost, hcost, hst⟩ := bind_eq_ok.mp hst
      obtain ⟨inner, hinner, hst⟩ := bind_eq_ok.mp hst
      obtain ⟨hcapacity, hcurrent, hprogress⟩ := ih _ _ _ hinner
      have hprice : (problem request).cost (job, options) choice = cost := by
        simp [problem, priceOf, hcost]
      cases hst
      refine ⟨?_, ?_, ?_⟩
      · simp only [hcapacity]
        exact release_reserve _ _ _
      · simp [hcurrent]
      · rw [place_of_fits request hfits, hprice]
        exact hprogress

end

/-! ## Leaves are feasible assignments -/

section

variable {request : ScheduleInput}

/-- A path fits exactly when no slot it uses gets more than it has. -/
theorem replay_isSome_iff (js : List (Job × List (List Int))) (path : List (List Int))
    (capacity : Dict Int Int) (hlen : path.length = js.length)
    (hnodup : ∀ window ∈ path, window.Nodup) :
    (replay (problem request) js path capacity).isSome ↔
      ∀ window ∈ path, ∀ i ∈ window, ∃ free, capacity.get? i = some free ∧
        placedGpus ((js.map Prod.fst).zip path) i ≤ free := by
  induction js generalizing path capacity with
  | nil =>
    rw [length_nil, length_eq_zero_iff] at hlen
    simp [hlen, replay]
  | cons jobOptions js ih =>
    obtain ⟨job, options⟩ := jobOptions
    obtain _ | ⟨window, path⟩ := path
    · cases hlen
    obtain ⟨hwindow, hpath⟩ := forall_mem_cons.mp hnodup
    have hzip : ((((job, options) :: js).map Prod.fst).zip (window :: path)) =
        (job, window) :: (js.map Prod.fst).zip path := rfl
    simp only [hzip, placedGpus_cons]
    by_cases hfits : fits capacity job.request.gpuCount window = .ok true
    · have hplace : (problem request).place (job, options) window capacity =
          some (reserve capacity job.request.gpuCount window) := place_of_fits request hfits
      rw [replay, hplace, Option.bind_some, ih path _ (by simpa using hlen) hpath]
      constructor
      · intro h w hw i hi
        by_cases hused : ∃ later ∈ path, i ∈ later
        · -- the later windows leave room for all of them, after this one
          obtain ⟨later, hlater, hin⟩ := hused
          obtain ⟨free, hfree, hle⟩ := h later hlater i hin
          rw [get?_reserve hwindow] at hfree
          obtain ⟨before, hbefore, hfree⟩ := Option.map_eq_some_iff.mp hfree
          refine ⟨before, hbefore, ?_⟩
          split at hfree <;> rename_i hi' <;> simp only [hi', if_true, if_false] <;> omega
        · -- only this window uses the slot, and its test has passed
          have hiw : i ∈ window := by
            rcases mem_cons.mp hw with rfl | hw
            · exact hi
            · exact absurd ⟨w, hw, hi⟩ hused
          have hzero : placedGpus ((js.map Prod.fst).zip path) i = 0 :=
            placedGpus_eq_zero fun jobWindow hjw hin =>
              hused ⟨jobWindow.2, (of_mem_zip hjw).2, hin⟩
          obtain ⟨free, hfree, hle⟩ := fits_eq_ok_true.mp hfits i hiw
          exact ⟨free, hfree, by rw [if_pos hiw, hzero, add_zero]; exact hle⟩
      · intro h w hw i hi
        obtain ⟨free, hfree, hle⟩ := h w (mem_cons_of_mem _ hw) i hi
        refine ⟨_, by rw [get?_reserve hwindow, hfree, Option.map_some], ?_⟩
        split at hle <;> rename_i hi' <;> simp only [hi', if_true, if_false] <;> omega
    · rw [replay, place_of_not_fits request hfits, Option.bind_none]
      refine iff_of_false (by simp) fun h => hfits (fits_eq_ok_true.mpr fun i hi => ?_)
      obtain ⟨free, hfree, hle⟩ := h window mem_cons_self i hi
      rw [if_pos hi] at hle
      have hnonneg := placedGpus_nonneg ((js.map Prod.fst).zip path) i
      exact ⟨free, hfree, by omega⟩

/-- No slot that hosts a job gets more GPUs than it has. -/
def Feasible (request : ScheduleInput) (assignment : List (List Int)) : Prop :=
  ∀ slot ∈ request.slots, (∃ window ∈ assignment, slot.index ∈ window) →
    placedGpus (request.jobs.zip assignment) slot.index ≤ slot.gpuCapacity

instance (request : ScheduleInput) (assignment : List (List Int)) :
    Decidable (Feasible request assignment) := by
  unfold Feasible
  infer_instance

/-- The cost of an assignment: the sum over its windows. -/
def totalCost (request : ScheduleInput) (assignment : List (List Int)) : ℚ :=
  ((request.jobs.zip assignment).map fun jobWindow => priceOf request jobWindow.1 jobWindow.2).sum

theorem pathCost_eq (js : List (Job × List (List Int))) (path : List (List Int)) :
    pathCost (problem request) js path =
      (((js.map Prod.fst).zip path).map fun jobWindow =>
        priceOf request jobWindow.1 jobWindow.2).sum := by
  induction js generalizing path with
  | nil => simp [pathCost]
  | cons jobOptions js ih =>
    cases path with
    | nil => simp [pathCost]
    | cons window path =>
      simp only [pathCost, ih, map_cons, zip_cons_cons, sum_cons]
      rfl

variable {options : List (List (List Int))}

variable {assignment : List (List Int)}

section

variable (hoptions : request.jobs.mapM (jobOptions request) = .ok options)
include hoptions

theorem assignment_window (ha : assignment ∈ choices options)
    (h : jobWindow ∈ request.jobs.zip assignment) :
    ∃ windows, jobOptions request jobWindow.1 = .ok windows ∧ jobWindow.2 ∈ windows := by
  have hzip : ∀ {jobs : List Job} {options : List (List (List Int))} {assignment},
      List.Forall₂ (fun job windows => jobOptions request job = .ok windows) jobs options →
      List.Forall₂ (· ∈ ·) assignment options → jobWindow ∈ jobs.zip assignment →
      ∃ windows, jobOptions request jobWindow.1 = .ok windows ∧ jobWindow.2 ∈ windows := by
    intro jobs options assignment hjobs
    induction hjobs generalizing assignment with
    | nil => simp
    | cons hhead _ ih =>
      rintro (_ | ⟨hmem, htail⟩) hin
      rcases mem_cons.mp hin with rfl | hin
      · exact ⟨_, hhead, hmem⟩
      · exact ih htail hin
  exact hzip (mapM_eq_ok.mp hoptions) (mem_choices.mp ha) h

theorem options_length :
    request.jobs.length = options.length := (mapM_eq_ok.mp hoptions).length_eq

theorem assignment_length (ha : assignment ∈ choices options) :
    request.jobs.length = assignment.length :=
  (options_length hoptions).trans (mem_choices.mp ha).length_eq.symm

theorem mem_zip_of_window (ha : assignment ∈ choices options) (hw : window ∈ assignment) :
    ∃ job, (job, window) ∈ request.jobs.zip assignment := by
  have hsnd : (request.jobs.zip assignment).map Prod.snd = assignment :=
    map_snd_zip (assignment_length hoptions ha).ge
  rw [← hsnd] at hw
  obtain ⟨⟨job, w⟩, hmem, rfl⟩ := mem_map.mp hw
  exact ⟨job, hmem⟩

end

section

variable (hindex : (request.slots.map (·.index)).Nodup)
include hindex

theorem start_capacity (hslot : slot ∈ request.slots) :
    (SearchState.start request).capacity.get? slot.index = some slot.gpuCapacity := by
  refine get?_ofList ?_ (mem_map.mpr ⟨slot, hslot, rfl⟩)
  simpa [Function.comp_def] using hindex

theorem feasible_iff (hoptions : Options request options) (ha : assignment ∈ choices options) :
    Feasible request assignment ↔
      ∀ window ∈ assignment, ∀ i ∈ window, ∃ free,
        (SearchState.start request).capacity.get? i = some free ∧
          placedGpus (request.jobs.zip assignment) i ≤ free := by
  constructor
  · intro h window hw i hi
    obtain ⟨job, hmem⟩ := mem_zip_of_window hoptions ha hw
    obtain ⟨windows, hwindows, hin⟩ := assignment_window hoptions ha hmem
    obtain ⟨slot, hslot, rfl, _, _⟩ := jobOptions_admits hwindows hin hi
    exact ⟨_, start_capacity hindex hslot, h slot hslot ⟨window, hw, hi⟩⟩
  · rintro h slot hslot ⟨window, hw, hi⟩
    obtain ⟨free, hfree, hle⟩ := h window hw slot.index hi
    rw [start_capacity hindex hslot, Option.some.injEq] at hfree
    exact hfree ▸ hle

theorem leaves_eq_feasible (hoptions : Options request options) :
    BranchBound.leaves (problem request) (request.jobs.zip options)
        (SearchState.start request).capacity =
      (choices options).filter fun assignment => decide (Feasible request assignment) := by
  have hlength := options_length hoptions
  have hsnd : (request.jobs.zip options).map (problem request).options = options :=
    map_snd_zip hlength.ge
  have hfst : (request.jobs.zip options).map Prod.fst = request.jobs :=
    map_fst_zip hlength.le
  rw [leaves_eq_filter, hsnd]
  refine filter_congr ?_
  intro assignment ha
  have hnodup : ∀ window ∈ assignment, window.Nodup := fun window hw => by
    obtain ⟨job, hmem⟩ := mem_zip_of_window hoptions ha hw
    obtain ⟨windows, hwindows, hin⟩ := assignment_window hoptions ha hmem
    exact jobOptions_nodup hindex hwindows hin
  have hlen : assignment.length = (request.jobs.zip options).length := by
    rw [length_zip, ← hlength, min_self, assignment_length hoptions ha]
  rw [Bool.eq_iff_iff, decide_eq_true_iff, feasible_iff hindex hoptions ha,
    replay_isSome_iff _ _ _ hlen hnodup, hfst]

end

theorem pathCost_eq_totalCost (hoptions : Options request options) :
    pathCost (problem request) (request.jobs.zip options) = totalCost request := by
  funext assignment
  rw [pathCost_eq, map_fst_zip (options_length hoptions).le, totalCost]

end

/-! ## What the optimizer returns -/

section

variable (contentHash : ScheduleInput → String) (request : ScheduleInput) (clock : Nat → ℚ)
  (timeoutSeconds : ℚ) (options : List (List (List Int)))

/-- What the search over the windows has recorded when it ends. -/
def finished : BranchBound.Progress (List Int) ℚ :=
  BranchBound.search (problem request) (expired clock timeoutSeconds) (request.jobs.zip options)
    (SearchState.start request).capacity [] 0 ⟨none, false, 0⟩

/-- The three ways `optimize` returns. -/
inductive Outcome : OptimizationResult → Prop
  | noWindow (runtime : ℚ) (h : [] ∈ options) :
      Outcome (noWindowResult runtime
        (((request.jobs.zip options).filter (·.2.isEmpty)).map (·.1.id)))
  | noPlan (runtime : ℚ) (hall : [] ∉ options)
      (hbest : (finished request clock timeoutSeconds options).best = none) :
      Outcome (noPlanResult runtime (finished request clock timeoutSeconds options).timedOut)
  | planned (runtime cost energy : ℚ) (assignment : List (List Int)) (hall : [] ∉ options)
      (hbest : (finished request clock timeoutSeconds options).best = some (cost, assignment))
      (henergy : planEnergy request (request.jobs.zip assignment) = .ok energy)
      (hvalid : validatePlan request
        (planOf contentHash request cost energy (request.jobs.zip assignment)) = .ok ()) :
      Outcome (planResult runtime (finished request clock timeoutSeconds options).timedOut
        (planOf contentHash request cost energy (request.jobs.zip assignment)))

variable {request options}

theorem noWindow_iff (hoptions : Options request options) :
    ((request.jobs.zip options).filter (·.2.isEmpty)).map (·.1.id) ≠ [] ↔ [] ∈ options := by
  have hsnd : (request.jobs.zip options).map Prod.snd = options :=
    map_snd_zip (options_length hoptions).ge
  rw [Ne, map_eq_nil_iff, filter_eq_nil_iff]
  constructor
  · intro h
    by_contra hall
    refine h fun jobWindows hmem hempty => hall ?_
    rw [← hsnd, ← isEmpty_iff.mp hempty]
    exact mem_map_of_mem hmem
  · intro hmem h
    rw [← hsnd] at hmem
    obtain ⟨jobWindows, hin, hempty⟩ := mem_map.mp hmem
    exact h jobWindows hin (by simp [hempty])

theorem optimize_noWindow (hoptions : Options request options) (hempty : [] ∈ options) :
    optimize contentHash request clock timeoutSeconds = .ok (noWindowResult (clock 1 - clock 0)
      (((request.jobs.zip options).filter (·.2.isEmpty)).map (·.1.id))) := by
  rw [optimize, hoptions, ok_bind]
  simp only [noWindow_iff hoptions, if_pos hempty, except_pure]

variable {result : OptimizationResult}

theorem optimize_outcome (h : optimize contentHash request clock timeoutSeconds = .ok result) :
    ∃ options, Options request options ∧
      Outcome contentHash request clock timeoutSeconds options result := by
  obtain ⟨options, hoptions, h⟩ := bind_eq_ok.mp h
  refine ⟨options, hoptions, ?_⟩
  simp only [noWindow_iff hoptions] at h
  split at h
  · rename_i hempty
    cases h
    exact .noWindow _ hempty
  rename_i hall
  obtain ⟨final, hfinal, h⟩ := bind_eq_ok.mp h
  have hprogress : final.progress = finished request clock timeoutSeconds options :=
    (search_restores _ 0 _ _ hfinal).2.2
  have hout : final.timedOut = (finished request clock timeoutSeconds options).timedOut :=
    congrArg timedOut hprogress
  have hbest : final.best = (finished request clock timeoutSeconds options).best :=
    congrArg best hprogress
  unfold conclude at h
  split at h
  · rename_i hnone
    cases h
    rw [hout]
    exact .noPlan _ hall (hbest.symm.trans hnone)
  · rename_i cost assignment hsome
    obtain ⟨energy, henergy, h⟩ := bind_eq_ok.mp h
    obtain ⟨_, hvalid, h⟩ := bind_eq_ok.mp h
    cases h
    rw [hout]
    exact .planned _ cost energy assignment hall (hbest.symm.trans hsome) henergy hvalid

/-- Whatever the clock does, the recorded assignment is a feasible one. -/
theorem finished_feasible (hindex : DistinctSlots request) (hoptions : Options request options)
    {cost : ℚ} {assignment : List (List Int)}
    (hbest : (finished request clock timeoutSeconds options).best = some (cost, assignment)) :
    assignment ∈ choices options ∧ Feasible request assignment := by
  have hleaf := (search_best_mem (problem request) (expired clock timeoutSeconds)
    (b := (cost, assignment)) hbest).1
  rw [leaves_eq_feasible hindex hoptions] at hleaf
  obtain ⟨hmem, hfeasible⟩ := mem_filter.mp hleaf
  exact ⟨hmem, of_decide_eq_true hfeasible⟩

variable {plan : SchedulePlan}

/-- A returned plan is a feasible choice of one window for each job. -/
theorem optimize_assigns (hindex : DistinctSlots request)
    (h : optimize contentHash request clock timeoutSeconds = .ok result)
    (hplan : result.plan = some plan) :
    ∃ options assignment, Options request options ∧
      assignment ∈ choices options ∧ Feasible request assignment ∧
      Places request plan (request.jobs.zip assignment) := by
  obtain ⟨options, hoptions, houtcome⟩ := optimize_outcome contentHash clock timeoutSeconds h
  cases houtcome with
  | noWindow | noPlan => cases hplan
  | planned runtime cost energy assignment _ hbest _ _ =>
    cases hplan
    obtain ⟨ha, hfeasible⟩ := finished_feasible clock timeoutSeconds hindex hoptions hbest
    refine ⟨options, assignment, hoptions, ha, hfeasible, ?_, ?_⟩
    · exact forall₂_map_left_iff.mpr (forall₂_same.mpr fun _ _ => ⟨rfl, rfl, rfl⟩)
    · rw [map_fst_zip (assignment_length hoptions ha).le]

/-- **What the optimizer places fits**, whatever the clock does: a returned
plan places every job in slots that admit it, within the GPUs of every
slot. -/
theorem optimize_places (hindex : DistinctSlots request)
    (h : optimize contentHash request clock timeoutSeconds = .ok result)
    (hplan : result.plan = some plan) :
    ∃ placed, Places request plan placed ∧ WithinGpus request placed := by
  obtain ⟨options, assignment, hoptions, ha, hfeasible, hplaces⟩ :=
    optimize_assigns contentHash clock timeoutSeconds hindex h hplan
  refine ⟨_, hplaces, ?_, ?_⟩
  · intro jobWindow hmem slot hslot hi
    obtain ⟨windows, hwindows, hin⟩ := assignment_window hoptions ha hmem
    obtain ⟨slot', hslot', heq, hadmits, _⟩ := jobOptions_admits hwindows hin hi
    rwa [← slot_eq_of_index hindex hslot' hslot heq]
  · rintro slot hslot ⟨jobWindow, hmem, hi⟩
    exact hfeasible slot hslot ⟨jobWindow.2, (of_mem_zip hmem).2, hi⟩

theorem optimize_indices (hindex : DistinctSlots request)
    (h : optimize contentHash request clock timeoutSeconds = .ok result)
    (hplan : result.plan = some plan) {allocation : Allocation}
    (hmem : allocation ∈ plan.allocations) (hi : i ∈ allocation.slotIndices) :
    ∃ slot ∈ request.slots, slot.index = i := by
  obtain ⟨options, assignment, hoptions, ha, _, hplaces⟩ :=
    optimize_assigns contentHash clock timeoutSeconds hindex h hplan
  obtain ⟨jobWindow, hjobWindow, hdescribes⟩ := exists_of_forall₂ hplaces.allocations hmem
  obtain ⟨windows, hwindows, hin⟩ := assignment_window hoptions ha hjobWindow
  obtain ⟨slot, hslot, heq, _, _⟩ := jobOptions_admits hwindows hin (hdescribes.window ▸ hi)
  exact ⟨slot, hslot, heq⟩

theorem priceOf_nonneg (hcost : ∀ slot ∈ request.slots, 0 ≤ slotCost job slot) (window : List Int) :
    0 ≤ priceOf request job window := by
  unfold priceOf
  split
  · rename_i cost hwindow
    obtain ⟨slots, hslots, h⟩ := bind_eq_ok.mp hwindow
    rw [except_pure, Except.ok.injEq] at h
    subst h
    refine sum_nonneg ?_
    intro x hx
    obtain ⟨slot, hslot, rfl⟩ := mem_map.mp hx
    obtain ⟨i, _, hi⟩ := mem_of_mapM_eq_ok hslots hslot
    exact hcost slot (pyGet?_mem (pyIndex_eq_ok.mp hi))
  · exact le_refl 0

/-- When the clock never expired, the recorded assignment is the first of
minimum cost among the feasible ones. -/
theorem finished_best (hindex : DistinctSlots request) (hoptions : Options request options)
    (hcost : ∀ job ∈ request.jobs, ∀ slot ∈ request.slots, 0 ≤ slotCost job slot)
    (hout : (finished request clock timeoutSeconds options).timedOut = false) :
    (finished request clock timeoutSeconds options).best =
      (((choices options).filter fun assignment => decide (Feasible request assignment)).argmin
        (totalCost request)).map fun assignment => (totalCost request assignment, assignment) := by
  have hprice : ∀ jobWindows ∈ request.jobs.zip options, ∀ window ∈ jobWindows.2,
      0 ≤ (problem request).cost jobWindows window := fun jobWindows hmem window _ =>
    priceOf_nonneg (hcost jobWindows.1 (of_mem_zip hmem).1) window
  rw [← leaves_eq_feasible hindex hoptions, ← pathCost_eq_totalCost hoptions]
  exact search_best (problem request) (expired clock timeoutSeconds) hprice hout

end

/-! ## The optimizer returns -/

section

variable {request : ScheduleInput} {options : List (List (List Int))}

theorem contains_reserve (capacity : Dict Int Int) (gpuCount : Int) (choice : List Int) (i : Int) :
    (reserve capacity gpuCount choice).contains i = capacity.contains i := by
  induction choice generalizing capacity with
  | nil => rfl
  | cons slot rest ih => rw [reserve, foldl_cons, ← reserve, ih, contains_modify]

/-- Every entry of a window is a position in the request and a key of the
table. -/
def Covers (request : ScheduleInput) (capacity : Dict Int Int) (windows : List (List Int)) : Prop :=
  ∀ window ∈ windows, ∀ i ∈ window, capacity.contains i ∧ ∃ slot, pyGet? request.slots i = some slot

theorem Covers.reserve {capacity : Dict Int Int}
    (h : Covers request capacity windows) (gpuCount : Int) (choice : List Int) :
    Covers request (reserve capacity gpuCount choice) windows := fun window hw i hi => by
  rw [contains_reserve]
  exact h window hw i hi

theorem windowCost_ok (job : Job) (h : ∀ i ∈ window, ∃ slot, pyGet? request.slots i = some slot) :
    ∃ cost, windowCost request job window = .ok cost := by
  obtain ⟨slots, hslots⟩ := mapM_ok (f := pyIndex request.slots) window fun i hi => by
    obtain ⟨slot, hslot⟩ := h i hi
    exact ⟨slot, pyIndex_eq_ok.mpr hslot⟩
  exact ⟨_, by rw [windowCost, hslots]; rfl⟩

theorem search_ok (clock : Nat → ℚ) (timeoutSeconds : ℚ) (rest : List (Job × List (List Int)))
    (runningCost : ℚ) (st : SearchState)
    (h : ∀ jobWindows ∈ rest, Covers request st.capacity jobWindows.2) :
    ∃ st', search request clock timeoutSeconds rest runningCost st = .ok st' := by
  induction rest generalizing runningCost st with
  | nil =>
    rw [search, visit]
    split
    · exact ⟨_, rfl⟩
    · split <;> exact ⟨_, rfl⟩
  | cons jobWindows rest ih =>
    obtain ⟨job, windows⟩ := jobWindows
    obtain ⟨hhead, hrest⟩ := forall_mem_cons.mp h
    rw [search, visit]
    split
    · exact ⟨_, rfl⟩
    split
    · exact ⟨_, rfl⟩
    -- the loop over the windows: every pass gives the capacity back
    generalize hmid : ({ st with ticks := st.ticks + 1 } : SearchState) = mid
    have hcapacity : mid.capacity = st.capacity := by rw [← hmid]
    clear hmid
    simp only at hhead
    induction windows generalizing mid with
    | nil => exact ⟨mid, rfl⟩
    | cons window windows ihw =>
      obtain ⟨hwindow, hwindows⟩ := forall_mem_cons.mp hhead
      rw [foldlM_cons]
      obtain ⟨b, hfits⟩ := fits_ok mid.capacity job.request.gpuCount window
        fun i hi => by
          rw [hcapacity]
          exact contains_eq_true.mp (hwindow i hi).1
      rw [hfits, ok_bind]
      cases b with
      | false => exact ihw (forall_mem_cons.mpr ⟨hwindows, hrest⟩) hwindows mid hcapacity
      | true =>
        obtain ⟨cost, hcost⟩ := windowCost_ok job fun i hi => (hwindow i hi).2
        obtain ⟨inner, hinner⟩ := ih (runningCost + cost)
          { mid with
            capacity := reserve mid.capacity job.request.gpuCount window
            current := mid.current ++ [window] }
          fun other hother => hcapacity ▸ (hrest other hother).reserve _ _
        have hrestored := (search_restores _ _ _ _ hinner).1
        simp only [if_true, hcost, ok_bind, hinner, except_pure]
        refine ihw (forall_mem_cons.mpr ⟨hwindows, hrest⟩) hwindows _ ?_
        simp only [hrestored]
        exact (release_reserve _ _ _).trans hcapacity

theorem jobOptions_ok (hduration : Lasting request) (hcount : slotCount request job ≤ maxsize)
    (hcomparable : ∀ slot ∈ request.slots, Dated job slot) :
    ∃ windows, jobOptions request job = .ok windows := by
  unfold jobOptions
  split
  · exact ⟨[], rfl⟩
  rename_i first rest hslots
  have hpos : 0 < first.durationHours := hduration first (by simp [hslots])
  have hneeded : slotsNeeded job first.durationHours = .ok (slotCount request job) := by
    rw [slotsNeeded, if_neg hpos.ne', slotCount, hslots]
    rfl
  rw [hneeded, ok_bind, eligible_eq_ok.mpr ⟨hcomparable, rfl⟩, ok_bind,
    windowsOf_eq_ok.mpr ⟨slotCount_nonneg hduration job, hcount, rfl⟩, ok_bind]
  exact ⟨_, rfl⟩

variable {assignment : List (List Int)}

/-- The slot a window entry names, for a request whose slots carry their own
position. -/
theorem assignment_slot (hpositional : Positional request) (hoptions : Options request options)
    (ha : assignment ∈ choices options)
    (h : jobWindow ∈ request.jobs.zip assignment) (hi : i ∈ jobWindow.2) :
    ∃ slot ∈ request.slots, slot.index = i ∧ OpenAt request jobWindow.1 i slot := by
  obtain ⟨windows, hwindows, hin⟩ := assignment_window hoptions ha h
  obtain ⟨slot, hslot, rfl, hadmits, hcomparable⟩ := jobOptions_admits hwindows hin hi
  exact ⟨slot, hslot, rfl, hpositional.pyGet? hslot, hcomparable, hadmits.early⟩

theorem validatePlan_planOf (contentHash : ScheduleInput → String)
    (hids : (request.jobs.map (·.id)).Nodup) (hpositional : Positional request)
    (hoptions : Options request options) (ha : assignment ∈ choices options)
    (hfeasible : Feasible request assignment) (cost energy : ℚ) :
    validatePlan request
      (planOf contentHash request cost energy (request.jobs.zip assignment)) = .ok () := by
  refine validatePlan_ok allocationOf (request.jobs.zip assignment) (fun _ => rfl) (fun _ => rfl)
    (fun _ => rfl) rfl hpositional.nodup hids (fun jobWindow h => (of_mem_zip h).1) ?_ ?_ ?_
  · have hfst : (request.jobs.zip assignment).map (·.1.id) = request.jobs.map (·.id) := by
      rw [show (fun jobWindow : Job × List Int => jobWindow.1.id) = Job.id ∘ Prod.fst from rfl,
        ← map_map, map_fst_zip (assignment_length hoptions ha).le]
    rw [hfst]
    exact hids
  · intro jobWindow h
    obtain ⟨windows, hwindows, hin⟩ := assignment_window hoptions ha h
    exact jobOptions_nodup hpositional.nodup hwindows hin
  · intro jobWindow h i hi
    obtain ⟨slot, hslot, rfl, hopen⟩ := assignment_slot hpositional hoptions ha h hi
    exact ⟨slot, hopen, rfl, hfeasible slot hslot ⟨jobWindow.2, (of_mem_zip h).2, hi⟩⟩

theorem planEnergy_ok (placed : List (Job × List Int))
    (h : ∀ jobWindow ∈ placed, ∀ i ∈ jobWindow.2, ∃ slot, pyGet? request.slots i = some slot) :
    ∃ energy, planEnergy request placed = .ok energy := by
  have hparts : ∃ parts, placed.mapM (fun jobWindow => do
      let slots ← jobWindow.2.mapM (pyIndex request.slots)
      pure (slots.map (slotEnergy jobWindow.1)).sum) = .ok parts := by
    refine mapM_ok placed ?_
    intro jobWindow hmem
    obtain ⟨slots, hslots⟩ := mapM_ok (f := pyIndex request.slots) jobWindow.2
      fun i hi => by
        obtain ⟨slot, hslot⟩ := h jobWindow hmem i hi
        exact ⟨slot, pyIndex_eq_ok.mpr hslot⟩
    exact ⟨_, by rw [hslots]; rfl⟩
  obtain ⟨parts, hparts⟩ := hparts
  exact ⟨parts.sum, by rw [planEnergy, hparts]; rfl⟩

theorem optimize_ok (contentHash : ScheduleInput → String) (clock : Nat → ℚ) (timeoutSeconds : ℚ)
    (hids : (request.jobs.map (·.id)).Nodup) (hduration : Lasting request)
    (hpositional : Positional request)
    (hcounts : ∀ job ∈ request.jobs, slotCount request job ≤ maxsize)
    (hcomparable : ∀ job ∈ request.jobs, ∀ slot ∈ request.slots, Dated job slot) :
    ∃ result, optimize contentHash request clock timeoutSeconds = .ok result := by
  obtain ⟨options, hoptions⟩ := mapM_ok (f := jobOptions request) request.jobs
    fun job hjob => jobOptions_ok hduration (hcounts job hjob) (hcomparable job hjob)
  rw [optimize, hoptions, ok_bind]
  simp only [noWindow_iff hoptions]
  split
  · exact ⟨_, rfl⟩
  obtain ⟨final, hfinal⟩ := search_ok clock timeoutSeconds (request.jobs.zip options) 0
    (.start request) fun jobWindows hmem window hw i hi => by
      obtain ⟨job, _, hwindows⟩ := mem_of_mapM_eq_ok hoptions (of_mem_zip hmem).2
      obtain ⟨slot, hslot, rfl, _, _⟩ := jobOptions_admits hwindows hw hi
      exact ⟨contains_eq_true.mpr ⟨_, start_capacity hpositional.nodup hslot⟩,
        slot, hpositional.pyGet? hslot⟩
  rw [hfinal, ok_bind, conclude]
  split
  · exact ⟨_, rfl⟩
  rename_i cost assignment hsome
  have hbest : (finished request clock timeoutSeconds options).best = some (cost, assignment) :=
    (congrArg best (search_restores _ 0 _ _ hfinal).2.2).symm.trans hsome
  obtain ⟨ha, hfeasible⟩ :=
    finished_feasible clock timeoutSeconds hpositional.nodup hoptions hbest
  obtain ⟨energy, henergy⟩ := planEnergy_ok
    (request.jobs.zip assignment) fun jobWindow hmem i hi => by
      obtain ⟨slot, hslot, _, hopen⟩ := assignment_slot hpositional hoptions ha hmem hi
      exact ⟨slot, hopen.1⟩
  have hvalid :=
    validatePlan_planOf contentHash hids hpositional hoptions ha hfeasible cost energy
  simp only [henergy, hvalid, ok_bind]
  exact ⟨_, rfl⟩

end

/-! ## Exactness -/

/-- The requests the optimizer is exact for. -/
structure WellPosed (request : ScheduleInput) : Prop where
  ids : (request.jobs.map (·.id)).Nodup
  positional : Positional request
  duration : ∀ slot ∈ request.slots, 0 < slot.durationHours
  cost : ∀ job ∈ request.jobs, ∀ slot ∈ request.slots, 0 ≤ slotCost job slot

theorem optimize_cases (contentHash : ScheduleInput → String) (clock : Nat → ℚ)
    (timeoutSeconds : ℚ) (hrequest : WellPosed request)
    (h : optimize contentHash request clock timeoutSeconds = .ok result)
    (htimeout : result.status ≠ .timeout) (hfeasibleTimeout : result.status ≠ .feasibleTimeout) :
    ∃ options, Options request options ∧
      ((result.status = .infeasible ∧ result.plan = none ∧
          ∀ assignment ∈ choices options, ¬ Feasible request assignment) ∨
        ∃ best plan, result.status = .optimal ∧ result.plan = some plan ∧
          (best ∈ choices options ∧ Feasible request best) ∧
          ((choices options).filter fun assignment =>
            decide (Feasible request assignment)).argmin (totalCost request) = some best ∧
          plan.allocations = (request.jobs.zip best).map allocationOf ∧
          plan.estimatedCost = totalCost request best) := by
  have hindex := hrequest.positional.nodup
  obtain ⟨options, hoptions, houtcome⟩ := optimize_outcome contentHash clock timeoutSeconds h
  have hexact := finished_best clock timeoutSeconds hindex hoptions hrequest.cost
  refine ⟨options, hoptions, ?_⟩
  cases houtcome with
  | noWindow runtime hempty =>
    exact .inl ⟨rfl, rfl, by simp [choices_eq_nil hempty]⟩
  | noPlan runtime _ hbest =>
    have hout : (finished request clock timeoutSeconds options).timedOut = false := by
      by_contra htrue
      exact htimeout (by simp [noPlanResult, htrue])
    rw [hexact hout, Option.map_eq_none_iff, argmin_eq_none, filter_eq_nil_iff] at hbest
    refine .inl ⟨by simp [noPlanResult, hout], rfl, fun assignment ha => ?_⟩
    simpa using hbest assignment ha
  | planned runtime cost energy assignment _ hbest _ _ =>
    have hout : (finished request clock timeoutSeconds options).timedOut = false := by
      by_contra htrue
      exact hfeasibleTimeout (by simp [planResult, htrue])
    have hfeasible := finished_feasible clock timeoutSeconds hindex hoptions hbest
    rw [hexact hout, Option.map_eq_some_iff] at hbest
    obtain ⟨best, hargmin, hpair⟩ := hbest
    obtain ⟨rfl, rfl⟩ := Prod.mk.inj hpair
    exact .inr ⟨best, _, by simp [planResult, hout], rfl, hfeasible, hargmin, rfl, rfl⟩

/-- Nothing times out under a clock that never expires. -/
theorem optimize_completes {contentHash : ScheduleInput → String} {clock : Nat → ℚ}
    {timeoutSeconds : ℚ} (hclock : ∀ n, expired clock timeoutSeconds n = false)
    (h : optimize contentHash request clock timeoutSeconds = .ok result) :
    result.status ≠ .timeout ∧ result.status ≠ .feasibleTimeout := by
  obtain ⟨options, _, houtcome⟩ := optimize_outcome contentHash clock timeoutSeconds h
  have hout : (finished request clock timeoutSeconds options).timedOut = false :=
    search_timedOut (problem request) _ hclock _ _ _ _ _
  cases houtcome with
  | noWindow => simp [noWindowResult]
  | noPlan => simp [noPlanResult, hout]
  | planned => simp [planResult, hout]

/-- **Main result.** For distinct job ids, slots that carry their own
position and have positive durations, and costs that are not negative:
`optimize` returns if its datetimes can be ordered and no job needs more slots
than `itertools.combinations` takes, and whenever it returns without a timeout
it reports "infeasible" exactly when no choice of one window per job is feasible.
Otherwise it reports "optimal" with the plan of the first feasible choice of minimum
cost, in the lexicographic order of the search, and with that minimum as the
estimated cost. -/
theorem optimize_exact (contentHash : ScheduleInput → String) (request : ScheduleInput)
    (clock : Nat → ℚ) (timeoutSeconds : ℚ) (hrequest : WellPosed request) :
    ((∀ job ∈ request.jobs, slotCount request job ≤ maxsize) →
      (∀ job ∈ request.jobs, ∀ slot ∈ request.slots,
        DateTime.Comparable slot.startsAt job.sla.deadline) →
      ∃ result, optimize contentHash request clock timeoutSeconds = .ok result) ∧
    ∀ result, optimize contentHash request clock timeoutSeconds = .ok result →
      result.status ≠ .timeout → result.status ≠ .feasibleTimeout →
      ∃ options, request.jobs.mapM (jobOptions request) = .ok options ∧
        (result.status = .infeasible ↔
          ∀ assignment ∈ choices options, ¬ Feasible request assignment) ∧
        (result.status ≠ .infeasible → ∃ best plan,
          result.status = .optimal ∧ result.plan = some plan ∧
          ((choices options).filter fun assignment =>
            decide (Feasible request assignment)).argmin (totalCost request) = some best ∧
          plan.allocations = (request.jobs.zip best).map allocationOf ∧
          plan.estimatedCost = totalCost request best) := by
  refine ⟨optimize_ok contentHash clock timeoutSeconds hrequest.ids hrequest.duration
    hrequest.positional, ?_⟩
  intro result h htimeout hfeasibleTimeout
  obtain ⟨options, hoptions, hcases⟩ :=
    optimize_cases contentHash clock timeoutSeconds hrequest h htimeout hfeasibleTimeout
  refine ⟨options, hoptions, ?_⟩
  rcases hcases with ⟨hstatus, -, hnone⟩ | ⟨best, plan, hstatus, hplan, ⟨ha, hfeasible⟩, hbest⟩
  · exact ⟨iff_of_true hstatus hnone, fun hne => absurd hstatus hne⟩
  · refine ⟨iff_of_false (by simp [hstatus]) fun hnone => hnone best ha hfeasible, fun _ => ?_⟩
    exact ⟨best, plan, hstatus, hplan, hbest⟩

/-- One job, and a free slot after one whose capacity is below zero. -/
def overdrawnInput : ScheduleInput where
  jobs := [.simple "job-a" 1 1 10]
  slots := [.simple 0 (-1) 5 2, .simple 1 1 5 3]
  topologyVersion := 1
  forecastVersion := "forecast-1"

theorem overdrawnInput_wellPosed : WellPosed overdrawnInput where
  ids := by decide
  positional := positional_of_indices rfl
  duration := by decide
  cost := by decide +kernel

theorem optimize_exact_overdrawnInput :
    (∃ result, optimize (fun _ => "hash") overdrawnInput (fun _ => 0) 10 = .ok result) ∧
      ∀ result, optimize (fun _ => "hash") overdrawnInput (fun _ => 0) 10 = .ok result →
        result.status ≠ .timeout → result.status ≠ .feasibleTimeout →
        result.status ≠ .infeasible → result.status = .optimal := by
  have hexact := optimize_exact (fun _ => "hash") overdrawnInput (fun _ => 0) 10
    overdrawnInput_wellPosed
  refine ⟨hexact.1 (by decide +kernel) (by decide), fun result h hout hout' hne => ?_⟩
  obtain ⟨_, _, _, hoptimal⟩ := hexact.2 result h hout hout'
  obtain ⟨_, _, hstatus, _⟩ := hoptimal hne
  exact hstatus

/-- A plan is returned as optimal although no assignment at all keeps the
load of every slot within its capacity: the slot below zero hosts nothing. -/
theorem overdrawn_slot_not_infeasible :
    WellPosed overdrawnInput ∧
    (∃ result, optimize (fun _ => "hash") overdrawnInput (fun _ => 0) 10 = .ok result ∧
      result.status = .optimal) ∧
    ∀ assignment, ¬ ∀ slot ∈ overdrawnInput.slots,
      placedGpus (overdrawnInput.jobs.zip assignment) slot.index ≤ slot.gpuCapacity := by
  refine ⟨overdrawnInput_wellPosed, ?_, fun assignment h => ?_⟩
  · have hstatus : OptimizationResult.status <$>
        optimize (fun _ => "hash") overdrawnInput (fun _ => 0) 10 = .ok .optimal := by
      decide +kernel
    exact map_eq_ok.mp hstatus
  · have hle := h (.simple 0 (-1) 5 2) mem_cons_self
    have hnonneg := placedGpus_nonneg (overdrawnInput.jobs.zip assignment) 0
    exact absurd (hnonneg.trans hle) (by decide)

end ComputeWeaver.Optimization
