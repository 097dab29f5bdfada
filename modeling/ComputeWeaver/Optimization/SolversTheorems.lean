/-
Optimization.SolversTheorems — the 0/1 program against the
enumeration.

The columns that are 1 in a feasible solution are one window per job
(`exists_windows`), every choice of one window per job is a solution
(`exists_picked`), and the rows speak of the GPUs and the power that the choice
takes in EVERY slot. The enumeration watches the GPUs of the slots it uses, and
the power of one job at a time. So the program has fewer solutions, and the two
agree exactly where one of the cheapest choices of the enumeration is within the
rows.
-/
import ComputeWeaver.Optimization.Solvers
import ComputeWeaver.Optimization.EngineTheorems

namespace ComputeWeaver.Optimization

open Lib Workloads Scheduling BinaryProgram Dict HighsSolver List

/-! ## Columns -/

section

variable {start : Nat} {placeable : List (Job × List (List Int))}
  {jobIndex n : Nat} {windows : List (List Int)} {column : Variable}
  {jobWindows : Job × List (List Int)}

theorem mem_columnsOf {job : Job} (h : column ∈ columnsOf jobIndex job windows) :
    column.jobIndex = jobIndex ∧ column.job = job ∧ column.choice ∈ windows := by
  obtain ⟨⟨choice, optionIndex⟩, hmem, rfl⟩ := mem_map.mp h
  exact ⟨rfl, rfl, fst_mem_of_mem_zipIdx hmem⟩

theorem exists_column (job : Job) {window : List Int} (h : window ∈ windows) :
    ∃ optionIndex, ⟨jobIndex, optionIndex, job, window⟩ ∈ columnsOf jobIndex job windows := by
  obtain ⟨optionIndex, hlt, rfl⟩ := getElem_of_mem h
  refine ⟨optionIndex, mem_map.mpr ⟨(windows[optionIndex], optionIndex), ?_, rfl⟩⟩
  exact mem_zipIdx_iff_getElem?.mpr (getElem?_eq_getElem hlt)

theorem optionIndex_columnsOf (jobIndex : Nat) (job : Job) (windows : List (List Int)) :
    (columnsOf jobIndex job windows).map (·.optionIndex) = List.range windows.length := by
  simp [columnsOf, Function.comp_def, zipIdx_map_snd, range_eq_range']

theorem start_le_jobIndex (h : column ∈ variablesFrom start placeable) :
    start ≤ column.jobIndex := by
  induction placeable generalizing start with
  | nil => cases h
  | cons jobWindows rest ih =>
    rcases mem_append.mp h with hhead | hrest
    · exact (mem_columnsOf hhead).1.ge
    · exact (Nat.le_succ start).trans (ih hrest)

theorem nodup_keys (start : Nat) (placeable : List (Job × List (List Int))) :
    ((variablesFrom start placeable).map fun column =>
      (column.jobIndex, column.optionIndex)).Nodup := by
  induction placeable generalizing start with
  | nil => exact nodup_nil
  | cons jobWindows rest ih =>
    rw [variablesFrom, map_append]
    refine List.Nodup.append ?_ (ih (start + 1)) ?_
    · refine List.Nodup.of_map Prod.snd ?_
      rw [map_map]
      show ((columnsOf start jobWindows.1 jobWindows.2).map (·.optionIndex)).Nodup
      rw [optionIndex_columnsOf]
      exact nodup_range
    · intro key hhead hrest
      obtain ⟨column, hcolumn, rfl⟩ := mem_map.mp hhead
      obtain ⟨column', hcolumn', heq⟩ := mem_map.mp hrest
      have hle := start_le_jobIndex hcolumn'
      have hstart := (mem_columnsOf hcolumn).1
      have hsame : column'.jobIndex = column.jobIndex := congrArg Prod.fst heq
      omega

theorem filter_columnsOf {j : Nat} (job : Job) (windows : List (List Int)) :
    (columnsOf jobIndex job windows).filter (fun column => decide (column.jobIndex = j)) =
      if jobIndex = j then columnsOf jobIndex job windows else [] := by
  split
  · rename_i heq
    exact filter_eq_self.mpr fun column h => decide_eq_true ((mem_columnsOf h).1.trans heq)
  · rename_i hne
    refine filter_eq_nil_iff.mpr fun column h htrue => hne ?_
    exact (mem_columnsOf h).1.symm.trans (of_decide_eq_true htrue)

theorem filter_variablesFrom (h : placeable[n]? = some jobWindows) :
    (variablesFrom start placeable).filter (fun column => decide (column.jobIndex = start + n)) =
      columnsOf (start + n) jobWindows.1 jobWindows.2 := by
  induction placeable generalizing start n with
  | nil => cases h
  | cons head rest ih =>
    rw [variablesFrom, filter_append, filter_columnsOf]
    cases n with
    | zero =>
      cases h
      have hrest : (variablesFrom (start + 1) rest).filter
          (fun column => decide (column.jobIndex = start + 0)) = [] := by
        refine filter_eq_nil_iff.mpr fun column hcolumn htrue => ?_
        have hle := start_le_jobIndex hcolumn
        have heq := of_decide_eq_true htrue
        omega
      rw [hrest, if_pos (Nat.add_zero start).symm, append_nil, Nat.add_zero]
    | succ n =>
      have hne : start ≠ start + (n + 1) := by omega
      have hrest := @ih (start + 1) n h
      rw [show start + 1 + n = start + (n + 1) by omega] at hrest
      rw [if_neg hne, nil_append, hrest]

theorem getItem_variableIndex {columns : List Variable}
    (hnodup : (columns.map fun column => (column.jobIndex, column.optionIndex)).Nodup)
    {columnPosition : Variable × Nat} (h : columnPosition ∈ columns.zipIdx) (name : String) :
    (variableIndex columns).getItem
      (columnPosition.1.jobIndex, columnPosition.1.optionIndex) name = .ok columnPosition.2 := by
  refine getItem_eq_ok.mpr (get?_ofList ?_ (mem_map.mpr ⟨columnPosition, h, rfl⟩))
  have hkeys : (columns.zipIdx.map fun columnPosition : Variable × Nat =>
      ((columnPosition.1.jobIndex, columnPosition.1.optionIndex), columnPosition.2)).map Prod.fst =
      (columns.zipIdx.map Prod.fst).map fun column => (column.jobIndex, column.optionIndex) := by
    rw [map_map, map_map]
    rfl
  rw [hkeys, zipIdx_map_fst]
  exact hnodup

theorem windowRow_eq (h : placeable[n]? = some jobWindows) :
    windowRow (variableIndex (variablesFrom 0 placeable)) n jobWindows.2 =
      .ok ⟨some 1, 1, columnEntries (variablesFrom 0 placeable)
        (fun column => if column.jobIndex = n then some 1 else none) 0⟩ := by
  let hits := (variablesFrom 0 placeable).zipIdx.filter fun columnPosition =>
    decide (columnPosition.1.jobIndex = n)
  have hcolumns : hits.map Prod.fst = columnsOf n jobWindows.1 jobWindows.2 := by
    have hfilter := @filter_variablesFrom 0 placeable n jobWindows h
    rw [Nat.zero_add] at hfilter
    rw [← hfilter]
    conv => rhs; rw [← zipIdx_map_fst 0 (variablesFrom 0 placeable)]
    rw [List.filter_map]
    rfl
  have hrange : List.range jobWindows.2.length = hits.map fun hit => hit.1.optionIndex := by
    rw [← optionIndex_columnsOf n jobWindows.1 jobWindows.2, ← hcolumns, map_map]
    rfl
  have hmapM : (List.range jobWindows.2.length).mapM (fun optionIndex =>
      (variableIndex (variablesFrom 0 placeable)).getItem (n, optionIndex)
        (toString (n, optionIndex))) = .ok (hits.map Prod.snd) := by
    rw [hrange]
    refine except_mapM_map Prod.snd fun hit hhit => ?_
    obtain ⟨hmem, hjob⟩ := mem_filter.mp hhit
    rw [← of_decide_eq_true hjob]
    exact getItem_variableIndex (nodup_keys 0 placeable) hmem _
  have hentries : columnEntries (variablesFrom 0 placeable)
      (fun column => if column.jobIndex = n then some (1 : ℚ) else none) 0 =
      (hits.map Prod.snd).map fun index => (index, 1) := by
    rw [columnEntries, ← filterMap_eq_map, filterMap_map, filterMap_filter]
    refine filterMap_congr fun columnPosition _ => ?_
    by_cases hjob : columnPosition.1.jobIndex = n <;> simp [hjob]
  rw [windowRow, hmapM, ok_bind, hentries]
  rfl

end

/-! ## One window per job -/

structure OnePerJob (start : Nat) (placeable : List (Job × List (List Int)))
    (picked : List Variable) (windows : List (List Int)) : Prop where
  placed : picked.map (fun column => (column.job, column.choice)) =
    (placeable.map Prod.fst).zip windows
  indices : picked.map (·.jobIndex) = List.range' start placeable.length
  options : List.Forall₂ (· ∈ ·) windows (placeable.map Prod.snd)

section

variable {start : Nat} {placeable : List (Job × List (List Int))}

def countOf (picked : List Variable) (j : Nat) : Nat :=
  (picked.filter fun column => decide (column.jobIndex = j)).length

theorem countOf_append (picked picked' : List Variable) (j : Nat) :
    countOf (picked ++ picked') j = countOf picked j + countOf picked' j := by
  simp [countOf]

variable {picked : List Variable} {j : Nat} {windows : List (List Int)}

theorem countOf_eq_zero (h : ∀ column ∈ picked, column.jobIndex ≠ j) : countOf picked j = 0 := by
  simpa [countOf] using h

theorem countOf_eq_length (h : ∀ column ∈ picked, column.jobIndex = j) :
    countOf picked j = picked.length := by
  rw [countOf, filter_eq_self.mpr fun column hcolumn => decide_eq_true (h column hcolumn)]

theorem exists_windows (hsub : picked.Sublist (variablesFrom start placeable))
    (hone : ∀ n < placeable.length, countOf picked (start + n) = 1) :
    ∃ windows, OnePerJob start placeable picked windows := by
  induction placeable generalizing start picked with
  | nil =>
    rw [variablesFrom, sublist_nil] at hsub
    subst hsub
    exact ⟨[], rfl, rfl, .nil⟩
  | cons jobWindows rest ih =>
    obtain ⟨first, others, rfl, hfirst, hothers⟩ := sublist_append_iff.mp hsub
    have hown : ∀ column ∈ first, column.jobIndex = start := fun column h =>
      (mem_columnsOf (hfirst.subset h)).1
    have hlater : ∀ column ∈ others, start + 1 ≤ column.jobIndex := fun column h =>
      start_le_jobIndex (hothers.subset h)
    -- the columns of the first job are the first ones, and there is one
    have hsingle : first.length = 1 := by
      have hcount := hone 0 (by simp)
      rw [Nat.add_zero, countOf_append, countOf_eq_length hown, countOf_eq_zero] at hcount
      · exact hcount
      · intro column hcolumn
        have hle := hlater column hcolumn
        omega
    obtain ⟨column, rfl⟩ := length_eq_one_iff.mp hsingle
    obtain ⟨hindex, hjob, hchoice⟩ := mem_columnsOf (hfirst.subset mem_cons_self)
    obtain ⟨windows, hwindows⟩ := ih hothers fun n hn => by
      have hcount := hone (n + 1) (by simpa using hn)
      rw [countOf_append, countOf_eq_zero, Nat.zero_add] at hcount
      · rw [← hcount]
        congr 1
        omega
      · intro column' hcolumn'
        have hsame := hown column' hcolumn'
        omega
    refine ⟨column.choice :: windows, ?_, ?_, .cons hchoice hwindows.options⟩
    · rw [map_append, hwindows.placed]
      simp [hjob]
    · rw [map_append, hwindows.indices]
      simp [hindex, range'_succ]

/-- Every choice of one window per job is a choice of columns. -/
theorem exists_picked (h : List.Forall₂ (· ∈ ·) windows (placeable.map Prod.snd)) :
    ∃ picked, picked.Sublist (variablesFrom start placeable) ∧
      OnePerJob start placeable picked windows := by
  induction placeable generalizing start windows with
  | nil =>
    cases h
    exact ⟨[], .slnil, rfl, rfl, .nil⟩
  | cons jobWindows rest ih =>
    rw [map_cons] at h
    cases h with
    | @cons window _ windows _ hwindow hwindows =>
      obtain ⟨picked, hsub, hpicked⟩ := @ih (start + 1) windows hwindows
      obtain ⟨optionIndex, hcolumn⟩ := @exists_column start _ jobWindows.1 _ hwindow
      refine ⟨⟨start, optionIndex, jobWindows.1, window⟩ :: picked, ?_, ?_, ?_, ?_⟩
      · rw [← singleton_append, variablesFrom]
        exact (singleton_sublist.mpr hcolumn).append hsub
      · rw [map_cons, hpicked.placed]
        rfl
      · rw [map_cons, hpicked.indices, length_cons, range'_succ]
      · exact .cons hwindow hpicked.options

theorem OnePerJob.countOf_eq_one (h : OnePerJob start placeable picked windows) {n : Nat}
    (hn : n < placeable.length) : countOf picked (start + n) = 1 := by
  have hcount : countOf picked (start + n) = (picked.map (·.jobIndex)).count (start + n) := by
    rw [countOf, List.count, countP_map, countP_eq_length_filter]
    congr 1
  rw [hcount, h.indices]
  exact count_eq_one_of_mem nodup_range' (mem_range'.mpr ⟨n, hn, by simp⟩)

end

/-! ## What the rows say -/

def placedDemand (demand : Job → ℚ) (placed : List (Job × List Int)) (i : Int) : ℚ :=
  (placed.map fun jobWindow => if i ∈ jobWindow.2 then demand jobWindow.1 else 0).sum

/-- The power that a placement of jobs in windows takes in a slot. -/
def placedPower (placed : List (Job × List Int)) (i : Int) : ℚ :=
  placedDemand (fun job => job.request.gpuCount * job.request.powerKwPerGpu) placed i

/-- Every slot has the GPUs and the power for what is placed in it. -/
def WithinRows (request : ScheduleInput) (assignment : List (List Int)) : Prop :=
  ∀ slot ∈ request.slots,
    placedGpus (request.jobs.zip assignment) slot.index ≤ slot.gpuCapacity ∧
      placedPower (request.jobs.zip assignment) slot.index ≤ slot.powerCapacityKw

instance (request : ScheduleInput) (assignment : List (List Int)) :
    Decidable (WithinRows request assignment) := by
  unfold WithinRows
  infer_instance

theorem WithinRows.feasible {request : ScheduleInput} {assignment : List (List Int)}
    (h : WithinRows request assignment) : Feasible request assignment :=
  fun slot hslot _ => (h slot hslot).1

theorem placedDemand_gpuCount (placed : List (Job × List Int)) (i : Int) :
    placedDemand (fun job => job.request.gpuCount) placed i = placedGpus placed i := by
  induction placed with
  | nil => rfl
  | cons jobWindow placed ih =>
    rw [placedGpus_cons, Int.cast_add, ← ih]
    by_cases hi : i ∈ jobWindow.2 <;> simp [placedDemand, hi]

section

variable {request : ScheduleInput} {placeable : List (Job × List (List Int))}
  {picked : List Variable} {windows : List (List Int)}

theorem sum_indicator (picked : List Variable) (j : Nat) :
    (picked.map fun column => (if column.jobIndex = j then some (1 : ℚ) else none).getD 0).sum =
      countOf picked j := by
  induction picked with
  | nil => rfl
  | cons column picked ih =>
    rw [map_cons, sum_cons, ih]
    by_cases hj : column.jobIndex = j
    · simp [countOf, hj, add_comm]
    · simp [countOf, hj]

theorem weight_capacityRow {x : List Bool} (hlength : x.length = (variablesFrom 0 placeable).length)
    (hpicked : OnePerJob 0 placeable (chosen (variablesFrom 0 placeable) x) windows)
    (demand : Job → ℚ) (slot : TimeSlot) (capacity : ℚ) :
    weight x (capacityRow (variablesFrom 0 placeable) demand slot capacity).entries =
      placedDemand demand ((placeable.map Prod.fst).zip windows) slot.index := by
  have hweight := weight_columns (variablesFrom 0 placeable)
    (fun column => if slot.index ∈ column.choice then some (demand column.job) else none) [] x
    hlength
  rw [nil_append, length_nil] at hweight
  rw [capacityRow, hweight, placedDemand, ← hpicked.placed, map_map]
  congr 1
  refine map_congr_left fun column _ => ?_
  by_cases hi : slot.index ∈ column.choice <;> simp [hi]

end

/-! ## The program -/

section

variable {request : ScheduleInput} {options : List (List (List Int))}

/-- The program, once its parts are computed. -/
def scheduleProgram (request : ScheduleInput) (placeable : List (Job × List (List Int))) :
    BinaryProgram where
  costs := (variablesFrom 0 placeable).map fun column => priceOf request column.job column.choice
  rows := (List.range placeable.length).map (fun n =>
      ⟨some 1, 1, columnEntries (variablesFrom 0 placeable)
        (fun column => if column.jobIndex = n then some 1 else none) 0⟩) ++
    request.slots.map (gpuRow (variablesFrom 0 placeable)) ++
    request.slots.map (powerRow (variablesFrom 0 placeable))

theorem mem_variablesFrom {start : Nat} {placeable : List (Job × List (List Int))}
    {column : Variable} (h : column ∈ variablesFrom start placeable) :
    ∃ jobWindows ∈ placeable, column.job = jobWindows.1 ∧ column.choice ∈ jobWindows.2 := by
  induction placeable generalizing start with
  | nil => cases h
  | cons jobWindows rest ih =>
    rcases mem_append.mp h with hhead | hrest
    · exact ⟨jobWindows, mem_cons_self, (mem_columnsOf hhead).2⟩
    · obtain ⟨jobWindows', hmem, hcolumn⟩ := ih hrest
      exact ⟨jobWindows', mem_cons_of_mem _ hmem, hcolumn⟩

abbrev allColumns (request : ScheduleInput) (options : List (List (List Int))) : List Variable :=
  variablesFrom 0 (request.jobs.zip options)

theorem programOf_eq (hpositional : Positional request) (hoptions : Options request options) :
    programOf request (request.jobs.zip options) =
      .ok (scheduleProgram request (request.jobs.zip options)) := by
  have hcosts : (allColumns request options).mapM
      (fun column => windowCost request column.job column.choice) =
      .ok ((allColumns request options).map fun column =>
        priceOf request column.job column.choice) := by
    refine except_mapM_eq _ fun column hcolumn => ?_
    obtain ⟨jobWindows, hmem, -, hchoice⟩ := mem_variablesFrom hcolumn
    obtain ⟨cost, hcost⟩ := windowCost_ok column.job fun i hi => by
      obtain ⟨slot, hslot, rfl, _⟩ := jobOptions_admits (mapM_eq_ok_zip hoptions hmem) hchoice hi
      exact ⟨slot, hpositional.pyGet? hslot⟩
    simp only [priceOf, hcost]
  have hrows : (request.jobs.zip options).zipIdx.mapM (fun jobIndex =>
      windowRow (variableIndex (allColumns request options)) jobIndex.2
        jobIndex.1.2) =
      .ok ((List.range (request.jobs.zip options).length).map fun n =>
        ⟨some 1, 1, columnEntries (allColumns request options)
          (fun column => if column.jobIndex = n then some 1 else none) 0⟩) := by
    rw [range_eq_range', ← zipIdx_map_snd 0, map_map]
    exact except_mapM_eq _ fun jobIndex hmem => windowRow_eq (mem_zipIdx_iff_getElem?.mp hmem)
  rw [programOf]
  simp only [hcosts, hrows, ok_bind, RowBuffer.rowsOf_foldl_push]
  rfl

variable {x : List Bool}

/-- The feasible solutions are the choices of one window per job within the
rows. -/
theorem feasible_scheduleProgram_iff (hlength : request.jobs.length = options.length) :
    (scheduleProgram request (request.jobs.zip options)).Feasible x ↔
      x.length = (allColumns request options).length ∧
      ∃ windows, OnePerJob 0 (request.jobs.zip options)
          (chosen (allColumns request options) x) windows ∧
        WithinRows request windows := by
  have hfst : (request.jobs.zip options).map Prod.fst = request.jobs :=
    map_fst_zip hlength.le
  have hcolumns : (scheduleProgram request (request.jobs.zip options)).costs.length =
      (allColumns request options).length := length_map _
  have hwindow : ∀ n, x.length = (allColumns request options).length →
      weight x (columnEntries (allColumns request options)
        (fun column => if column.jobIndex = n then some (1 : ℚ) else none) 0) =
      countOf (chosen (allColumns request options) x) n := fun n hx => by
    have hweight := weight_columns (allColumns request options)
      (fun column => if column.jobIndex = n then some (1 : ℚ) else none) [] x hx
    rw [nil_append, length_nil] at hweight
    rw [hweight, sum_indicator]
  have hcapacity : ∀ windows, x.length = (allColumns request options).length →
      OnePerJob 0 (request.jobs.zip options)
        (chosen (allColumns request options) x) windows →
      ∀ slot : TimeSlot,
        ((gpuRow (allColumns request options) slot).Holds x ↔
          placedGpus (request.jobs.zip windows) slot.index ≤ slot.gpuCapacity) ∧
        ((powerRow (allColumns request options) slot).Holds x ↔
          placedPower (request.jobs.zip windows) slot.index ≤ slot.powerCapacityKw) := by
    intro windows hx hpicked slot
    have hweight := weight_capacityRow hx hpicked
    rw [hfst] at hweight
    constructor
    · rw [LinearRow.Holds, gpuRow, hweight, placedDemand_gpuCount]
      simp [capacityRow]
    · rw [LinearRow.Holds, powerRow, hweight]
      simp [capacityRow, placedPower]
  constructor
  · rintro ⟨hx, hrows⟩
    rw [hcolumns] at hx
    obtain ⟨windows, hpicked⟩ := @exists_windows 0 _ _ (chosen_sublist _ x) fun n hn => by
      have hrow := hrows _ (mem_append_left _ (mem_append_left _
        (mem_map.mpr ⟨n, mem_range.mpr hn, rfl⟩)))
      rw [LinearRow.Holds, hwindow n hx] at hrow
      have heq : (countOf (chosen (allColumns request options) x) n : ℚ) = 1 :=
        le_antisymm hrow.2 (hrow.1 1 rfl)
      rw [Nat.zero_add]
      exact_mod_cast heq
    refine ⟨hx, windows, hpicked, fun slot hslot => ?_⟩
    obtain ⟨hgpu, hpower⟩ := hcapacity windows hx hpicked slot
    exact ⟨hgpu.mp (hrows _ (mem_append_left _ (mem_append_right _
        (mem_map_of_mem hslot)))),
      hpower.mp (hrows _ (mem_append_right _ (mem_map_of_mem hslot)))⟩
  · rintro ⟨hx, windows, hpicked, hwithin⟩
    refine ⟨hx.trans hcolumns.symm, fun row hrow => ?_⟩
    rcases mem_append.mp hrow with hrow | hrow
    · rcases mem_append.mp hrow with hrow | hrow
      · obtain ⟨n, hn, rfl⟩ := mem_map.mp hrow
        have hcount := hpicked.countOf_eq_one (mem_range.mp hn)
        rw [Nat.zero_add] at hcount
        rw [LinearRow.Holds, hwindow n hx, hcount]
        simp
      · obtain ⟨slot, hslot, rfl⟩ := mem_map.mp hrow
        exact (hcapacity windows hx hpicked slot).1.mpr (hwithin slot hslot).1
    · obtain ⟨slot, hslot, rfl⟩ := mem_map.mp hrow
      exact (hcapacity windows hx hpicked slot).2.mpr (hwithin slot hslot).2

theorem objective_scheduleProgram (hlength : request.jobs.length = options.length)
    (hx : x.length = (allColumns request options).length) {windows : List (List Int)}
    (hpicked : OnePerJob 0 (request.jobs.zip options)
      (chosen (allColumns request options) x) windows) :
    (scheduleProgram request (request.jobs.zip options)).objective x =
      totalCost request windows := by
  have hentries : (scheduleProgram request (request.jobs.zip options)).costs.zipIdx.map Prod.swap =
      columnEntries (allColumns request options)
        (fun column => some (priceOf request column.job column.choice)) 0 := by
    rw [scheduleProgram, zipIdx_map, map_map, columnEntries, ← filterMap_eq_map]
    rfl
  have hweight := weight_columns (allColumns request options)
    (fun column => some (priceOf request column.job column.choice)) [] x hx
  rw [nil_append, length_nil] at hweight
  have hplaced := hpicked.placed
  rw [map_fst_zip hlength.le] at hplaced
  rw [objective, hentries, hweight, totalCost, ← hplaced, map_map]
  rfl

end

/-! ## The solver -/

/-- HiGHS solves every program exactly. -/
structure Highs.Exact (highs : Highs) : Prop where
  solved : ∀ program limit x, BinaryProgram.Feasible program x →
    ∃ y, program.Optimal y ∧ (highs.run program limit).modelStatus = .optimal ∧
      (highs.run program limit).colValue = y.map (fun b => if b then 1 else 0) ∧
      (highs.run program limit).objectiveFunctionValue = program.objective y
  infeasible : ∀ program limit, (∀ x, ¬ BinaryProgram.Feasible program x) →
    (highs.run program limit).modelStatus = .infeasible

variable {colValue : List ℚ}

theorem selectColumn_eq {b : Bool} {position : Nat}
    (h : colValue[position]? = some (if b then 1 else 0)) (selected : Dict Nat (List Int))
    (column : Variable) :
    selectColumn colValue selected (column, position) =
      .ok (if b then selected.set column.jobIndex column.choice else selected) := by
  have hvalue : pyIndex colValue position = .ok (if b then 1 else 0) := by
    rw [pyIndex_eq_ok, pyGet?_natCast, h]
  rw [selectColumn, hvalue, ok_bind]
  cases b with
  | false => exact if_neg (by norm_num)
  | true => exact if_pos (by norm_num)

theorem foldlM_selectColumn (columns : List Variable) (x : List Bool) (start : Nat)
    (selected : Dict Nat (List Int))
    (hvalues : ∀ n b, x[n]? = some b → colValue[start + n]? = some (if b then 1 else 0))
    (hlength : x.length = columns.length) :
    (columns.zipIdx start).foldlM (selectColumn colValue) selected =
      .ok (((chosen columns x).map fun column => (column.jobIndex, column.choice)).foldl
        (fun selected item => selected.set item.1 item.2) selected) := by
  induction columns generalizing x start selected with
  | nil => simp [chosen]
  | cons column columns ih =>
    cases x with
    | nil => cases hlength
    | cons b x =>
      have hrest : ∀ n b', x[n]? = some b' →
          colValue[start + 1 + n]? = some (if b' then 1 else 0) := by
        intro n b' hn
        rw [show start + 1 + n = start + (n + 1) by omega]
        exact hvalues (n + 1) b' (by simpa using hn)
      have hfirst : colValue[start]? = some (if b then 1 else 0) := hvalues 0 b rfl
      rw [zipIdx_cons, foldlM_cons, selectColumn_eq hfirst, ok_bind,
        ih x (start + 1) _ hrest (Nat.succ_injective hlength)]
      cases b <;> rfl

theorem selectWindows_eq {columns : List Variable} {x : List Bool}
    (hlength : x.length = columns.length) :
    selectWindows (x.map fun b => if b then 1 else 0) columns =
      .ok (.ofList ((chosen columns x).map fun column => (column.jobIndex, column.choice))) :=
  foldlM_selectColumn columns x 0 .empty (fun n b hb => by simp [hb]) hlength

section

variable (contentHash : ScheduleInput → String) {request : ScheduleInput}
  {options : List (List (List Int))} {windows : List (List Int)} {picked : List Variable}

theorem selected_windows (hlength : request.jobs.length = options.length)
    (hpicked : OnePerJob 0 (request.jobs.zip options) picked windows) :
    (ofList (picked.map fun column =>
        (column.jobIndex, column.choice))).entries.length = request.jobs.length ∧
      request.jobs.zipIdx.mapM (fun jobIndex : Job × Nat =>
        (ofList (picked.map fun column => (column.jobIndex, column.choice))).getItem jobIndex.2
          (toString jobIndex.2)) = .ok windows := by
  have hjobs : (request.jobs.zip options).length = request.jobs.length := by
    rw [length_zip, ← hlength, min_self]
  have hindices : picked.map (·.jobIndex) = List.range' 0 request.jobs.length :=
    hjobs ▸ hpicked.indices
  have hwindows : picked.map (·.choice) = windows := by
    have hsnd := congrArg (List.map Prod.snd) hpicked.placed
    rw [map_map, map_snd_zip] at hsnd
    · exact hsnd
    · rw [hpicked.options.length_eq, length_map, length_map]
  have hnodup : ((picked.map fun column => (column.jobIndex, column.choice)).map
      Prod.fst).Nodup := by
    rw [map_map]
    show (picked.map (·.jobIndex)).Nodup
    rw [hindices]
    exact nodup_range'
  constructor
  · rw [entries_ofList hnodup, length_map, ← length_map (·.jobIndex), hindices, length_range']
  · have hsplit : request.jobs.zipIdx.mapM (fun jobIndex : Job × Nat =>
        (ofList (picked.map fun column => (column.jobIndex, column.choice))).getItem jobIndex.2
          (toString jobIndex.2)) =
        (request.jobs.zipIdx.map Prod.snd).mapM (fun n =>
          (ofList (picked.map fun column => (column.jobIndex, column.choice))).getItem n
            (toString n)) := by
      rw [mapM_map]
      rfl
    rw [hsplit, zipIdx_map_snd, ← hindices, ← hwindows]
    refine except_mapM_map _ fun column hcolumn => ?_
    exact getItem_eq_ok.mpr (get?_ofList hnodup (mem_map_of_mem hcolumn))

theorem conclude_optimal (hids : (request.jobs.map (·.id)).Nodup)
    (hpositional : Positional request) (hoptions : Options request options) {x : List Bool}
    (hx : x.length = (allColumns request options).length)
    (hpicked : OnePerJob 0 (request.jobs.zip options)
      (chosen (allColumns request options) x) windows) (hwithin : WithinRows request windows)
    {run : HighsRun} (hstatus : run.modelStatus = .optimal)
    (hvalues : run.colValue = x.map fun b => if b then 1 else 0) (version : String) :
    ∃ energy, HighsSolver.conclude contentHash request version (request.jobs.zip options) run =
      .ok (HighsSolver.planResult version run
        (HighsSolver.planOf contentHash request run.objectiveFunctionValue energy
          (request.jobs.zip windows))) := by
  have hlength := options_length hoptions
  have ha : windows ∈ choices options := by
    have hmem := hpicked.options
    rw [map_snd_zip hlength.ge] at hmem
    exact mem_choices.mpr hmem
  obtain ⟨hentries, hselected⟩ := selected_windows hlength hpicked
  obtain ⟨energy, henergy⟩ := planEnergy_ok (request.jobs.zip windows) fun jobWindow hmem i hi => by
    obtain ⟨slot, -, -, hopen⟩ := assignment_slot hpositional hoptions ha hmem hi
    exact ⟨slot, hopen.1⟩
  have hvalid := validatePlan_planOf contentHash hids hpositional hoptions ha hwithin.feasible
    run.objectiveFunctionValue energy
  refine ⟨energy, ?_⟩
  rw [HighsSolver.conclude, hstatus, hvalues, selectWindows_eq hx]
  simp only [ne_eq, not_true_eq_false, false_and, if_false, ok_bind, hentries, hselected, henergy]
  show (validatePlan request (planOf contentHash request run.objectiveFunctionValue energy
    (request.jobs.zip windows)) >>= fun _ => _) = _
  rw [hvalid]
  rfl

theorem solve_cases (hids : (request.jobs.map (·.id)).Nodup) (hpositional : Positional request)
    (hoptions : Options request options) {highs : Highs}
    (hexact : highs.Exact) (timeoutSeconds : ℚ) :
    ∃ result, solve contentHash request (some highs) timeoutSeconds = .ok result ∧
      ((result.status = .infeasible ∧ result.plan = none ∧
          ∀ assignment ∈ choices options, ¬ WithinRows request assignment) ∨
        ∃ best plan, result.status = .optimal ∧ result.plan = some plan ∧
          (best ∈ choices options ∧ WithinRows request best) ∧
          (∀ assignment ∈ choices options, WithinRows request assignment →
            totalCost request best ≤ totalCost request assignment) ∧
          plan.estimatedCost = totalCost request best) := by
  have hlength := options_length hoptions
  have hsnd : (request.jobs.zip options).map Prod.snd = options := map_snd_zip hlength.ge
  -- the solution that an assignment within the rows stands for
  have hsolution : ∀ assignment ∈ choices options, WithinRows request assignment →
      ∃ x, (scheduleProgram request (request.jobs.zip options)).Feasible x ∧
        (scheduleProgram request (request.jobs.zip options)).objective x =
          totalCost request assignment := by
    intro assignment ha hwithin
    obtain ⟨picked, hsub, hpicked⟩ := @exists_picked 0 (request.jobs.zip options) assignment
      (hsnd.symm ▸ mem_choices.mp ha)
    obtain ⟨x, hx, rfl⟩ := exists_chosen hsub
    exact ⟨x, (feasible_scheduleProgram_iff hlength).mpr ⟨hx, assignment, hpicked, hwithin⟩,
      objective_scheduleProgram hlength hx hpicked⟩
  rw [solve, hoptions, ok_bind]
  simp only [noWindow_iff hoptions]
  split
  · rename_i hempty
    exact ⟨_, rfl, .inl ⟨rfl, rfl, by simp [choices_eq_nil hempty]⟩⟩
  rw [programOf_eq hpositional hoptions, ok_bind]
  by_cases hfeasible : ∃ x, (scheduleProgram request (request.jobs.zip options)).Feasible x
  · obtain ⟨x, hx⟩ := hfeasible
    obtain ⟨y, hy, hstatus, hvalues, hobjective⟩ := hexact.solved _ timeoutSeconds x hx
    obtain ⟨hlen, windows, hpicked, hwithin⟩ :=
      (feasible_scheduleProgram_iff hlength).mp hy.feasible
    obtain ⟨energy, hconclude⟩ := conclude_optimal contentHash hids hpositional
      hoptions hlen hpicked hwithin hstatus hvalues highs.version
    have hcost := objective_scheduleProgram hlength hlen hpicked
    have ha : windows ∈ choices options := mem_choices.mpr (hsnd ▸ hpicked.options)
    refine ⟨_, hconclude, .inr ⟨windows, _, ?_, rfl, ⟨ha, hwithin⟩, ?_, hobjective.trans hcost⟩⟩
    · simp [HighsSolver.planResult, hstatus]
    · intro assignment hassignment hwithin'
      obtain ⟨z, hz, hzcost⟩ := hsolution assignment hassignment hwithin'
      rw [← hcost, ← hzcost]
      exact hy.least z hz
  · have hstatus := hexact.infeasible (scheduleProgram request (request.jobs.zip options))
      timeoutSeconds fun x hx => hfeasible ⟨x, hx⟩
    refine ⟨_, by simp only [HighsSolver.conclude, hstatus]; rfl, .inl ⟨?_, rfl, ?_⟩⟩
    · simp [HighsSolver.noSolutionResult, hstatus]
    · intro assignment ha hwithin
      obtain ⟨x, hx, -⟩ := hsolution assignment ha hwithin
      exact hfeasible ⟨x, hx⟩

end

/-! ## Agreement -/

/-- Two solvers agree on feasibility, and on the objective of their plans. -/
def Agree : Except PyError OptimizationResult → Except PyError OptimizationResult → Prop
  | .ok result, .ok result' =>
      (result.status = .infeasible ↔ result'.status = .infeasible) ∧
        result.plan.map (·.estimatedCost) = result'.plan.map (·.estimatedCost)
  | .error e, .error e' => e = e'
  | _, _ => False

/-- Where some assignment is feasible for the enumeration, one of the cheapest
is within the rows. -/
def CheapestWithinRows (request : ScheduleInput) (options : List (List (List Int))) : Prop :=
  (∃ assignment ∈ choices options, Feasible request assignment) →
    ∃ assignment ∈ choices options, WithinRows request assignment ∧
      ∀ other ∈ choices options, Feasible request other →
        totalCost request assignment ≤ totalCost request other

/-- **Main result.** The enumeration, unless it times out, and an exact solver of
the program agree exactly where one of the cheapest assignments is within the
rows. -/
theorem solvers_agree_iff (contentHash : ScheduleInput → String) (request : ScheduleInput)
    (clock : Nat → ℚ) (timeoutSeconds limit : ℚ) (hrequest : WellPosed request) {highs : Highs}
    (hexact : highs.Exact)
    (hout : ∀ result, optimize contentHash request clock timeoutSeconds = .ok result →
      result.status ≠ .timeout ∧ result.status ≠ .feasibleTimeout) :
    Agree (optimize contentHash request clock timeoutSeconds)
        (HighsSolver.solve contentHash request (some highs) limit) ↔
      ∀ options, request.jobs.mapM (jobOptions request) = .ok options →
        CheapestWithinRows request options := by
  cases hwindows : request.jobs.mapM (jobOptions request) with
  | error e =>
    have hoptimize : optimize contentHash request clock timeoutSeconds = .error e := by
      rw [optimize, hwindows, error_bind]
    have hsolve : solve contentHash request (some highs) limit = .error e := by
      rw [solve, hwindows, error_bind]
    rw [hoptimize, hsolve]
    simp [Agree]
  | ok options =>
    have hcomparable : ∀ job ∈ request.jobs, ∀ slot ∈ request.slots, Dated job slot := by
      intro job hjob
      obtain ⟨windows, -, hjobWindows⟩ := exists_of_mapM_eq_ok hwindows hjob
      exact jobOptions_comparable hjobWindows
    have hcounts : ∀ job ∈ request.jobs, slotCount request job ≤ maxsize := by
      intro job hjob
      obtain ⟨windows, -, hjobWindows⟩ := exists_of_mapM_eq_ok hwindows hjob
      exact jobOptions_count hjobWindows
    obtain ⟨result, hresult⟩ := optimize_ok contentHash clock timeoutSeconds hrequest.ids
      hrequest.duration hrequest.positional hcounts hcomparable
    obtain ⟨options', hoptions', hcases⟩ := optimize_cases contentHash clock timeoutSeconds hrequest
      hresult (hout result hresult).1 (hout result hresult).2
    cases hwindows.symm.trans hoptions'
    obtain ⟨result', hresult', hcases'⟩ := solve_cases contentHash hrequest.ids
      hrequest.positional hwindows hexact limit
    rw [hresult, hresult']
    have hall : (∀ options_1, (.ok options : Except PyError _) = .ok options_1 →
        CheapestWithinRows request options_1) ↔ CheapestWithinRows request options :=
      ⟨fun h => h options rfl, fun h options_1 heq => by cases heq; exact h⟩
    rw [hall]
    rcases hcases with
      ⟨hstatus, hplan, hnone⟩ | ⟨best, plan, hstatus, hplan, hbest, hargmin, -, hcost⟩
    · -- nothing is feasible, so nothing is within the rows
      rcases hcases' with ⟨hstatus', hplan', -⟩ | ⟨best', -, -, -, ⟨ha', hwithin'⟩, -⟩
      · refine iff_of_true ⟨iff_of_true hstatus hstatus', by rw [hplan, hplan']⟩ ?_
        rintro ⟨assignment, ha, hfeasible⟩
        exact absurd hfeasible (hnone assignment ha)
      · exact absurd hwithin'.feasible (hnone best' ha')
    · have hleast : ∀ other ∈ choices options, Feasible request other →
          totalCost request best ≤ totalCost request other := by
        intro other hother hfeasible
        exact le_of_mem_argmin (mem_filter.mpr ⟨hother, decide_eq_true hfeasible⟩)
          (Option.mem_def.mpr hargmin)
      rcases hcases' with ⟨hstatus', -, hnone'⟩ |
        ⟨best', plan', hstatus', hplan', ⟨ha', hwithin'⟩, hleast', hcost'⟩
      · refine iff_of_false (fun hagree => ?_) fun hcheapest => ?_
        · rw [hagree.1.mpr hstatus'] at hstatus
          cases hstatus
        · obtain ⟨assignment, ha, hwithin, -⟩ := hcheapest ⟨best, hbest⟩
          exact hnone' assignment ha hwithin
      · have hagree : Agree (.ok result) (.ok result') ↔
            totalCost request best = totalCost request best' := by
          simp [Agree, hstatus, hstatus', hplan, hplan', hcost, hcost']
        rw [hagree]
        constructor
        · exact fun heq _ => ⟨best', ha', hwithin', fun other hother hfeasible =>
            heq ▸ hleast other hother hfeasible⟩
        · intro hcheapest
          obtain ⟨assignment, ha, hwithin, hminimum⟩ := hcheapest ⟨best, hbest⟩
          exact le_antisymm (hleast best' ha' hwithin'.feasible)
            ((hleast' assignment ha hwithin).trans (hminimum best hbest.1 hbest.2))

/-- A solver that tries all solutions. -/
def exhaustiveHighs : Highs where
  version := "1.11.0"
  run program _ :=
    match program.exhaustive with
    | some x =>
        ⟨.optimal, "Optimal", x.map fun b => if b then 1 else 0, program.objective x, 0, 0⟩
    | none => ⟨.infeasible, "Infeasible", [], 0, 0, 0⟩

theorem exhaustiveHighs_exact : exhaustiveHighs.Exact where
  solved program limit x hx := by
    cases hsearch : program.exhaustive with
    | none => exact absurd hx (exhaustive_eq_none hsearch x)
    | some y =>
      refine ⟨y, exhaustive_optimal hsearch, ?_⟩
      simp [exhaustiveHighs, hsearch]
  infeasible program limit h := by
    cases hsearch : program.exhaustive with
    | none => simp [exhaustiveHighs, hsearch]
    | some y => exact absurd (exhaustive_optimal hsearch).feasible (h y)

/-- Two jobs of 3 kW, and one slot with a GPU for each of them. -/
def jointInput (powerCapacityKw : ℚ) : ScheduleInput where
  jobs := [.simple "job-a" 1 3 10, .simple "job-b" 1 3 10]
  slots := [.simple 0 2 powerCapacityKw 2]
  topologyVersion := 1
  forecastVersion := "forecast-1"

theorem wellPosed_jointInput (powerCapacityKw : ℚ) : WellPosed (jointInput powerCapacityKw) where
  ids := by simp [jointInput, Job.simple]
  positional := positional_of_indices rfl
  duration := by simp [jointInput, TimeSlot.simple]
  cost := by simp [jointInput, TimeSlot.simple, Job.simple, slotCost, slotEnergy]

theorem solvers_agree_jointInput :
    Agree (optimize (fun _ => "hash") (jointInput 6) (fun _ => 0) 10)
      (HighsSolver.solve (fun _ => "hash") (jointInput 6) (some exhaustiveHighs) 10) := by
  have hrun : OptimizationResult.status <$>
      optimize (fun _ => "hash") (jointInput 6) (fun _ => 0) 10 = .ok .optimal := by
    decide +kernel
  have hwindows : (jointInput 6).jobs.mapM (jobOptions (jointInput 6)) = .ok [[[0]], [[0]]] := by
    decide +kernel
  refine (solvers_agree_iff (fun _ => "hash") (jointInput 6) (fun _ => 0) 10 10
    (wellPosed_jointInput 6) exhaustiveHighs_exact ?_).mpr ?_
  · intro result hresult
    obtain ⟨result', hresult', hstatus⟩ := map_eq_ok.mp hrun
    cases hresult.symm.trans hresult'
    simp [hstatus]
  · intro options hoptions
    cases hwindows.symm.trans hoptions
    exact fun _ => ⟨[[0], [0]], by decide +kernel, by decide +kernel, by decide +kernel⟩

/-- With power for one of the jobs at a time the enumeration has a plan, and the
program has no solution. -/
theorem joint_power_splits_solvers :
    OptimizationResult.status <$> optimize (fun _ => "hash") (jointInput 5) (fun _ => 0) 10 =
        .ok .optimal ∧
      OptimizationResult.status <$>
          HighsSolver.solve (fun _ => "hash") (jointInput 5) (some exhaustiveHighs) 10 =
        .ok .infeasible := by
  decide +kernel

end ComputeWeaver.Optimization
