/-
Scheduling.WindowsTheorems — the windows that the planners give to
jobs.

All four planners test a window in the same way: as many slots as the duration
of the FIRST slot of the request asks for, each of them STARTING before the
deadline (`Grant`). Durations of the other slots and the ends of slots are never
looked at.

Whether a placed job has the time it needs, and whether it can finish by its deadline,
is decided where its slots are: at the turn of a job for a greedy planner (`Gives`), in
the last recorded assignment for an optimizer that completes (`Decided`).
-/
import ComputeWeaver.Optimization.PruningTheorems
import ComputeWeaver.Scheduling.CompletenessTheorems
import ComputeWeaver.Workloads.Sla

namespace ComputeWeaver.Scheduling

open Lib Workloads Optimization TimeSlot List

/-! ## Times -/

/-- The times of a slot. -/
structure Period where
  startsAt : DateTime
  durationHours : ℚ
  deriving DecidableEq, Repr

def TimeSlot.period (slot : TimeSlot) : Period := ⟨slot.startsAt, slot.durationHours⟩

/-- The end, in microseconds. -/
def Period.ends (period : Period) : ℚ :=
  period.startsAt.micros + period.durationHours * 3600000000

/-! ## Plans and what decides about them -/

/-- Whether `Q` holds of the jobs that a baseline has placed is decided by its turns
(`T`). For an optimizer that completes it is decided by the last recorded assignment
(`R`), and one that ran out of time keeps `Q` if `R` holds of all of them. -/
structure Decided (contentHash : ScheduleInput → String) (request : ScheduleInput)
    (Q R : List (Job × List Int) → Prop) (T : Baseline → List Turn → Prop) : Prop where
  greedy : ∀ (baseline : Baseline) plan, baseline.schedule contentHash request = .ok plan →
    ∃ turns, RunOf baseline request plan turns ∧ (Q (placedBy turns) ↔ T baseline turns)
  search : ∀ clock timeoutSeconds result plan, Monotone clock →
    optimize contentHash request clock timeoutSeconds = .ok result →
    result.plan = some plan →
    ∃ options assignment, request.jobs.mapM (jobOptions request) = .ok options ∧
      plan.allocations = (request.jobs.zip assignment).map allocationOf ∧
      (result.status = .optimal → (Q (request.jobs.zip assignment) ↔
        ∀ last ∈ (recordedAssignments request options).getLast?, R (request.jobs.zip last))) ∧
      ((∀ record ∈ recordedAssignments request options, R (request.jobs.zip record)) →
        Q (request.jobs.zip assignment))

section

variable {request : ScheduleInput} {Q R : List (Job × List Int) → Prop}
  {T : Baseline → List Turn → Prop}

/-- **All planners.** -/
theorem decided (contentHash : ScheduleInput → String) (hpositional : Positional request)
    (hturns : ∀ (baseline : Baseline) turns, Turns request baseline.price turns →
      (Q (placedBy turns) ↔ T baseline turns))
    (hrecords : ∀ options, request.jobs.mapM (jobOptions request) = .ok options →
      ∀ record ∈ recordedAssignments request options,
        (Q (request.jobs.zip record) ↔ R (request.jobs.zip record))) :
    Decided contentHash request Q R T where
  greedy baseline plan h := by
    rw [baseline.schedule_eq] at h
    obtain ⟨ordered, hordered, h⟩ := bind_eq_ok.mp h
    obtain ⟨turns, htaken, rfl, rfl⟩ := turns_of_schedule h
    exact ⟨turns, ⟨hordered, htaken, rfl, rfl⟩, hturns baseline turns htaken⟩
  search clock timeoutSeconds result plan hclock h hplan := by
    obtain ⟨options, assignment, hoptions, hallocations, hrecorded, hlast⟩ :=
      optimize_records contentHash hclock timeoutSeconds hpositional.nodup h hplan
    have hiff := hrecords options hoptions assignment hrecorded
    refine ⟨options, assignment, hoptions, hallocations, fun hstatus => ?_,
      fun hall => hiff.mpr (hall assignment hrecorded)⟩
    rw [hlast hstatus]
    simpa only [Option.mem_some_iff, forall_eq'] using hiff

/-- An optimizer that completes, and the assignment that it records last. -/
theorem Decided.optimal {contentHash : ScheduleInput → String} {timeoutSeconds : ℚ}
    {options : List (List (List Int))} {last : List (List Int)}
    (h : Decided contentHash request Q R T)
    (hoptimal : OptimizationResult.status <$>
      optimize contentHash request (fun _ => 0) timeoutSeconds = .ok .optimal)
    (hoptions : request.jobs.mapM (jobOptions request) = .ok options)
    (hlast : (recordedAssignments request options).getLast? = some last)
    (hR : R (request.jobs.zip last)) :
    ∃ result, optimize contentHash request (fun _ => 0) timeoutSeconds = .ok result ∧
      ∀ plan ∈ result.plan, ∃ assignment,
        plan.allocations = (request.jobs.zip assignment).map allocationOf ∧
        Q (request.jobs.zip assignment) := by
  obtain ⟨result, hresult, hstatus⟩ := map_eq_ok.mp hoptimal
  refine ⟨result, hresult, fun plan hplan => ?_⟩
  obtain ⟨options', assignment, hoptions', hallocations, hiff, _⟩ :=
    h.search (fun _ => 0) timeoutSeconds result plan monotone_const hresult hplan
  cases hoptions.symm.trans hoptions'
  refine ⟨assignment, hallocations, (hiff hstatus).mpr ?_⟩
  rw [hlast]
  simpa using hR

end

/-! ## The windows of the planners -/

section

variable {request : ScheduleInput}

theorem grant_of_jobOptions {job : Job} {options : List (List Int)}
    (h : jobOptions request job = .ok options) {window : List Int} (hw : window ∈ options) :
    ∃ selected, Grant request job selected ∧ window = selected.map (·.index) := by
  obtain ⟨hslots, hsub, hcount, htogether⟩ := (mem_jobOptions h).mp hw
  obtain ⟨selected, hselected, rfl⟩ := sublist_map_iff.mp hsub
  refine ⟨selected, ?_, rfl⟩
  constructor
  · exact hslots
  · exact jobOptions_comparable h
  · exact (hselected.trans filter_sublist).subperm
  · exact fun slot hslot => (mem_admitted.mp (hselected.subset hslot)).2.early
  · simpa using hcount
  · exact htogether

/-- The slots that a window names. -/
def slotsAt (request : ScheduleInput) (window : List Int) : List TimeSlot :=
  (window.mapM (pyIndex request.slots)).toOption.getD []

variable {job : Job} {selected : List TimeSlot} {price : Bool} {turns : List Turn}

theorem Grant.slotsAt_eq (hpositional : Positional request) (h : Grant request job selected) :
    slotsAt request (selected.map (·.index)) = selected := by
  rw [slotsAt, h.read hpositional]
  rfl

/-- Whenever a job gets slots at its turn, `R` holds of them. -/
def Gives (request : ScheduleInput) (price : Bool) (turns : List Turn)
    (R : Job → List TimeSlot → Prop) : Prop :=
  ∀ before turn after, turns = before ++ turn :: after →
    ∀ selected ∈ chosen request price (availableAfter request before) turn.job,
      R turn.job selected

variable {Q : Job × List Int → Prop} {R : Job → List TimeSlot → Prop}

/-- **The turns.** `Q` holds of all that is placed when `R` holds of what each turn
gives. -/
theorem Turns.forall_placed_iff (h : Turns request price turns)
    (hiff : ∀ job selected, Grant request job selected →
      (Q (job, selected.map (·.index)) ↔ R job selected)) :
    (∀ jobWindow ∈ placedBy turns, Q jobWindow) ↔ Gives request price turns R := by
  have hturn : ∀ {before turn after}, turns = before ++ turn :: after →
      turn.selection = chosen request price (availableAfter request before) turn.job :=
    fun hsplit => (selectSlots_eq_ok (h.selects hsplit)).2
  rw [placedBy_eq_granted]
  constructor
  · intro hall before turn after hsplit selected hselected
    have hgranted : (turn.job, selected) ∈ granted turns := by
      refine mem_filterMap.mpr ⟨turn, hsplit ▸ mem_append_right _ mem_cons_self, ?_⟩
      rw [hturn hsplit, Option.mem_def.mp hselected]
      rfl
    exact (hiff _ _ (h.grant hgranted)).mp (hall _ (mem_map_of_mem hgranted))
  · intro hgives jobWindow hmem
    obtain ⟨grant, hgranted, rfl⟩ := mem_map.mp hmem
    have hgrant := h.grant hgranted
    obtain ⟨turn, htaken, hselection⟩ := mem_filterMap.mp hgranted
    obtain ⟨selected, hselected, rfl⟩ := Option.map_eq_some_iff.mp hselection
    obtain ⟨before, after, hsplit⟩ := append_of_mem htaken
    refine (hiff _ _ hgrant).mpr (hgives before turn after hsplit selected ?_)
    rw [← hturn hsplit, hselected]
    rfl

/-- What a planner places is tested window by window. -/
theorem decided_windows (contentHash : ScheduleInput → String) (hpositional : Positional request)
    (hiff : ∀ job selected, Grant request job selected →
      (Q (job, selected.map (·.index)) ↔ R job selected)) :
    Decided contentHash request (∀ jobWindow ∈ ·, Q jobWindow)
      (∀ jobWindow ∈ ·, R jobWindow.1 (slotsAt request jobWindow.2))
      (fun baseline turns => Gives request baseline.price turns R) := by
  refine decided contentHash hpositional (fun _ _ hturns => hturns.forall_placed_iff hiff)
    fun options hoptions record hrecord => forall₂_congr fun jobWindow hmem => ?_
  obtain ⟨windows, hwindows, hin⟩ :=
    assignment_window hoptions (recorded_mem_choices hrecord) hmem
  obtain ⟨selected, hgrant, heq⟩ := grant_of_jobOptions hwindows hin
  rw [heq, hgrant.slotsAt_eq hpositional, ← hiff _ _ hgrant, ← heq]

end

/-! ## Slots in a row -/

theorem pairwise_of_consecutive {indices : List Int} (h : consecutive indices) :
    indices.Pairwise (· < ·) := by
  rw [← isChain_iff_pairwise]
  induction indices with
  | nil => exact .nil
  | cons i rest ih =>
    cases rest with
    | nil => exact .singleton i
    | cons j rest =>
      simp only [consecutive, tail_cons, zip_cons_cons, all_cons, Bool.and_eq_true,
        decide_eq_true_eq] at h
      obtain ⟨rfl, hrest⟩ := h
      exact .cons_cons (by omega) (ih hrest)

variable {request : ScheduleInput} {slot : TimeSlot} {job : Job} {selected : List TimeSlot}

theorem Positional.pairwise (h : Positional request) :
    (request.slots.map (·.index)).Pairwise (· < ·) := by
  rw [pairwise_iff_getElem]
  intro a b ha hb hab
  rw [length_map] at ha hb
  have hindex : ∀ n (hn : n < request.slots.length), (request.slots[n]).index = n :=
    fun n hn => h n _ (getElem?_eq_getElem hn)
  simp only [getElem_map, hindex a ha, hindex b hb]
  exact_mod_cast hab

def inOrder (request : ScheduleInput) (selected : List TimeSlot) : List TimeSlot :=
  request.slots.filter fun slot => decide (slot ∈ selected)

theorem Grant.inOrder_perm (hpositional : Positional request) (h : Grant request job selected) :
    (inOrder request selected).Perm selected := by
  have hnodup : request.slots.Nodup := hpositional.nodup.of_map _
  obtain ⟨sorted, hperm, hsublist⟩ := h.slots
  have hselected : selected.Nodup := hperm.nodup_iff.mp (hnodup.sublist hsublist)
  refine (perm_ext_iff_of_nodup (hnodup.filter _) hselected).mpr fun slot => ?_
  rw [mem_filter, decide_eq_true_iff]
  exact and_iff_right_of_imp fun hslot => h.slots.subset hslot

theorem Grant.inOrder_together (hpositional : Positional request) (h : Grant request job selected) :
    job.checkpointable ∨ consecutive ((inOrder request selected).map (·.index)) := by
  refine h.together.imp id fun hrow => ?_
  have hsorted : ((inOrder request selected).map (·.index)).Pairwise (· < ·) :=
    hpositional.pairwise.sublist (filter_sublist.map _)
  have heq : (inOrder request selected).map (·.index) = selected.map (·.index) :=
    List.Perm.eq_of_pairwise' (hsorted.imp le_of_lt)
      ((pairwise_of_consecutive hrow).imp le_of_lt) ((h.inOrder_perm hpositional).map _)
  rwa [heq]

/-! ## Work -/

/-- The allocated slots are distinct and have the hours that the job needs. -/
structure CoversWork (request : ScheduleInput) (jobWindow : Job × List Int) : Prop where
  distinct : jobWindow.2.Nodup
  hours : ∃ slots, jobWindow.2.mapM (pyIndex request.slots) = .ok slots ∧
    jobWindow.1.request.estimatedHours ≤ (slots.map (·.durationHours)).sum

/-- The slots have the hours that the job needs. -/
def Enough (job : Job) (slots : List TimeSlot) : Prop :=
  job.request.estimatedHours ≤ (slots.map (·.durationHours)).sum

instance (job : Job) (slots : List TimeSlot) : Decidable (Enough job slots) :=
  inferInstanceAs (Decidable (_ ≤ _))

theorem Grant.covers_iff_enough (hpositional : Positional request)
    (h : Grant request job selected) :
    CoversWork request (job, selected.map (·.index)) ↔ Enough job selected := by
  have hread := h.read hpositional
  constructor
  · rintro ⟨_, slots, hslots, hhours⟩
    cases hread.symm.trans hslots
    exact hhours
  · exact fun hhours => ⟨h.nodup hpositional.nodup, selected, hread, hhours⟩

/-- The one turn takes place in the capacities of the request. -/
theorem Decided.single {contentHash : ScheduleInput → String}
    {Q Q' : List (Job × List Int) → Prop} {R : Job → List TimeSlot → Prop}
    (h : Decided contentHash request Q Q'
      (fun baseline turns => Gives request baseline.price turns R))
    (hjobs : request.jobs = [job]) (baseline : Baseline)
    (hplan : (baseline.schedule contentHash request).toOption.isSome)
    (hgives : ∀ selected ∈ chosen request baseline.price (availableAfter request []) job,
      R job selected) :
    ∃ plan turns, baseline.schedule contentHash request = .ok plan ∧
      RunOf baseline request plan turns ∧ Q (placedBy turns) := by
  obtain ⟨plan, hplan⟩ := Option.isSome_iff_exists.mp hplan
  obtain ⟨turns, hrun, hiff⟩ := h.greedy baseline plan (toOption_eq_some.mp hplan)
  refine ⟨plan, turns, toOption_eq_some.mp hplan, hrun, hiff.mpr ?_⟩
  obtain ⟨selection, rfl⟩ := hrun.single hjobs
  intro before turn after hsplit selected hselected
  cases before with
  | nil =>
    cases hsplit
    exact hgives selected hselected
  | cons first rest => simp at hsplit

def allotted (plan : SchedulePlan) : List (String × List Int × Int) :=
  plan.allocations.map fun a => (a.jobId, a.slotIndices, a.gpuCount)

variable {job : Job} {window : List Int}

theorem places_single {plan : SchedulePlan} (hjobs : request.jobs = [job])
    (h : allotted plan = [(job.id, window, job.request.gpuCount)]) :
    Places request plan [(job, window)] := by
  obtain ⟨allocation, hallocation, heq⟩ := map_eq_singleton_iff.mp h
  obtain ⟨hid, hwindow, hgpus⟩ := Prod.ext_iff.mp heq |>.imp id Prod.ext_iff.mp
  refine ⟨?_, by simp [hjobs]⟩
  rw [hallocation]
  exact .cons ⟨hid, hwindow, hgpus⟩ .nil

/-- A run of the optimizer and of each baseline shows where the one job is placed. -/
theorem given_single (hjobs : request.jobs = [job])
    (hoptimize : (fun result : OptimizationResult => result.plan.map allotted) <$>
      optimize (fun _ => "hash") request (fun _ => 0) 10 =
        .ok (some [(job.id, window, job.request.gpuCount)]))
    (hbaseline : ∀ baseline : Baseline, allotted <$> baseline.schedule (fun _ => "hash") request =
      .ok [(job.id, window, job.request.gpuCount)]) :
    (∃ result plan, optimize (fun _ => "hash") request (fun _ => 0) 10 = .ok result ∧
      result.plan = some plan ∧ Places request plan [(job, window)]) ∧
    ∀ baseline : Baseline, ∃ plan, baseline.schedule (fun _ => "hash") request = .ok plan ∧
      Places request plan [(job, window)] := by
  constructor
  · obtain ⟨result, hresult, hsome⟩ := map_eq_ok.mp hoptimize
    obtain ⟨plan, hplan, hallotted⟩ := Option.map_eq_some_iff.mp hsome
    exact ⟨result, plan, hresult, hplan, places_single hjobs hallotted⟩
  · intro baseline
    obtain ⟨plan, hplan, hallotted⟩ := map_eq_ok.mp (hbaseline baseline)
    exact ⟨plan, hplan, places_single hjobs hallotted⟩

/-- A job of two hours, a slot of two hours without GPUs and one of an hour. -/
def unevenInput : ScheduleInput where
  jobs := [twoHourJob]
  slots := [{ TimeSlot.simple 0 0 5 2 with durationHours := 2 }, .simple 1 1 5 2]
  topologyVersion := 1
  forecastVersion := "forecast-1"

/-- With a GPU in the long slot instead, the job gets that one from every planner. -/
def idleInput : ScheduleInput :=
  { unevenInput with
    slots := [{ TimeSlot.simple 0 1 5 2 with durationHours := 2 }, .simple 1 0 5 2] }

/-- The allocated slots end by the deadline, and a job that completes in them is
not reported. -/
structure InTime (request : ScheduleInput) (jobWindow : Job × List Int) : Prop where
  ends : ∃ slots, jobWindow.2.mapM (pyIndex request.slots) = .ok slots ∧
    ∀ slot ∈ slots, slot.period.ends ≤ jobWindow.1.sla.deadline.micros
  reported : ∀ slots, jobWindow.2.mapM (pyIndex request.slots) = .ok slots →
    ∀ observation riskWindowSeconds evaluation,
      (∀ completedAt, observation.completedAt = some completedAt →
        ∃ slot ∈ slots, (completedAt.micros : ℚ) ≤ slot.period.ends) →
      evaluateSla jobWindow.1.sla observation riskWindowSeconds = .ok evaluation →
      "DEADLINE_MISSED" ∉ evaluation.violations

theorem inTime_of_ends {jobWindow : Job × List Int} {slots : List TimeSlot}
    (hslots : jobWindow.2.mapM (pyIndex request.slots) = .ok slots)
    (hends : ∀ slot ∈ slots, slot.period.ends ≤ jobWindow.1.sla.deadline.micros) :
    InTime request jobWindow where
  ends := ⟨slots, hslots, hends⟩
  reported := by
    intro slots' hslots' observation riskWindowSeconds evaluation hcompleted hevaluation hmissed
    obtain rfl := Except.ok.inj (hslots.symm.trans hslots')
    obtain ⟨completedAt, hcompletedAt, hlate⟩ := (deadlineMissed_iff hevaluation).mp hmissed
    obtain ⟨slot, hslot, hle⟩ := hcompleted completedAt hcompletedAt
    have hbefore : (completedAt.micros : ℚ) ≤ jobWindow.1.sla.deadline.micros :=
      hle.trans (hends slot hslot)
    exact absurd hlate (not_lt.mpr (by exact_mod_cast hbefore))

/-- The slots end by the deadline of the job. -/
def EndInTime (job : Job) (slots : List TimeSlot) : Prop :=
  ∀ slot ∈ slots, slot.period.ends ≤ job.sla.deadline.micros

instance (job : Job) (slots : List TimeSlot) : Decidable (EndInTime job slots) :=
  inferInstanceAs (Decidable (∀ slot ∈ slots, _))

theorem Grant.ends_iff (hpositional : Positional request) (h : Grant request job selected) :
    InTime request (job, selected.map (·.index)) ↔ EndInTime job selected := by
  have hread := h.read hpositional
  constructor
  · rintro ⟨⟨slots, hslots, hends⟩, _⟩
    cases hread.symm.trans hslots
    exact hends
  · exact @inTime_of_ends request (job, selected.map (·.index)) selected hread

/-- A slot that ends with the deadline, and a late one without GPUs. -/
def spareInput : ScheduleInput where
  jobs := [.simple "job-a" 1 1 3600000000]
  slots := [.simple 0 1 5 2, .simple 1 0 5 2]
  topologyVersion := 1
  forecastVersion := "forecast-1"

/-- A slot of an hour that starts right before the deadline. -/
def lastMinuteInput : ScheduleInput where
  jobs := [.simple "job-a" 1 1 10]
  slots := [.simple 0 1 5 2]
  topologyVersion := 1
  forecastVersion := "forecast-1"

end ComputeWeaver.Scheduling
