/-
Optimization.DiagnosticsTheorems — what the checks report is so.

Every report that is about time, GPUs or power says of a job that no slot admits
it (`Reported.not_admits`). Such a job has no window, so the optimizer names it,
and the greedy planners have no slot to offer to it, whatever the jobs before it
have taken.
-/
import ComputeWeaver.Optimization.Diagnostics
import ComputeWeaver.Scheduling.SoundnessTheorems

namespace ComputeWeaver.Optimization

open Lib Workloads Scheduling List

/-! ## Reports -/

/-- A check reports the job, for its deadline or for what it needs of a slot. -/
inductive Reported (request : ScheduleInput) (job : Job) : Prop
  | constraint (violations : List ConstraintViolation) (violation : ConstraintViolation)
      (h : validateHardConstraints request = .ok violations) (hmem : violation ∈ violations)
      (hsubject : violation.subjectId = job.id)
      (hid : violation.constraintId ∈ ["SLA_DEADLINE", "GPU_CAPACITY", "POWER_CAPACITY"])
  | diagnosis (issues : List String) (h : diagnoseInfeasibility request = .ok issues)
      (hmem : "GPU_CAPACITY:" ++ job.id ∈ issues ∨ "DEADLINE:" ++ job.id ∈ issues)

section

variable {request : ScheduleInput} {job : Job}
  {violations : List ConstraintViolation} {issues : List String}

theorem hardConstraints_subject (h : hardConstraints request job = .ok violations) :
    ∀ violation ∈ violations, violation.subjectId = job.id := by
  unfold hardConstraints at h
  obtain ⟨eligible, _, h⟩ := bind_eq_ok.mp h
  split at h
  · cases h
    simp
  cases h
  intro violation hmem
  simp only [mem_append, mem_ite_nil_right, mem_singleton] at hmem
  rcases hmem with (⟨_, rfl⟩ | ⟨_, rfl⟩) | ⟨_, rfl⟩ <;> rfl

theorem not_admits_of_hardConstraints (h : hardConstraints request job = .ok violations)
    {violation : ConstraintViolation} (hmem : violation ∈ violations)
    (hid : violation.constraintId ∈ ["SLA_DEADLINE", "GPU_CAPACITY", "POWER_CAPACITY"]) :
    ∀ slot ∈ request.slots, ¬ Admits job slot := by
  intro slot hslot hadmits
  unfold hardConstraints at h
  obtain ⟨eligible, heligible, h⟩ := bind_eq_ok.mp h
  have hslot' : slot ∈ eligible := by
    have hfilter : filterE (fun slot => slot.startsAt.lt job.sla.deadline) request.slots =
        .ok (request.slots.filter fun slot =>
          decide (slot.startsAt.micros < job.sla.deadline.micros)) :=
      filterE_of_ok fun other hother => by
        obtain ⟨b, hb⟩ := filterE_tests heligible other hother
        rw [hb, (DateTime.lt_eq_ok.mp hb).2]
    obtain rfl := Except.ok.inj (hfilter.symm.trans heligible)
    exact mem_filter.mpr ⟨hslot, decide_eq_true hadmits.early⟩
  split at h
  · rename_i hempty
    rw [isEmpty_iff.mp hempty] at hslot'
    cases hslot'
  cases h
  simp only [mem_append, mem_ite_nil_right, mem_singleton, all_eq_true, decide_eq_true_eq] at hmem
  rcases hmem with (⟨hgpus, _⟩ | ⟨hpower, _⟩) | ⟨_, rfl⟩
  · exact absurd hadmits.gpus (not_le.mpr (hgpus slot hslot'))
  · exact absurd hadmits.power (not_le.mpr (hpower slot hslot'))
  · simp at hid

theorem le_maxGpus {slots : List TimeSlot} {slot : TimeSlot} (hslot : slot ∈ slots) :
    slot.gpuCapacity ≤ maxGpus slots := by
  have hmem : slot.gpuCapacity ∈ slots.map (·.gpuCapacity) := mem_map_of_mem hslot
  unfold maxGpus
  cases hmax : (slots.map (·.gpuCapacity)).max? with
  | none =>
    rw [max?_eq_none_iff.mp hmax] at hmem
    cases hmem
  | some largest => exact (max?_eq_some_iff.mp hmax).2 _ hmem

theorem not_admits_of_diagnoseJob (h : diagnoseJob request job = .ok issues) (hsome : issues ≠ []) :
    ∀ slot ∈ request.slots, ¬ Admits job slot := by
  intro slot hslot hadmits
  unfold diagnoseJob at h
  obtain ⟨reachable, hreachable, h⟩ := bind_eq_ok.mp h
  have hgpus : ¬ maxGpus request.slots < job.request.gpuCount :=
    not_lt.mpr (hadmits.gpus.trans (le_maxGpus hslot))
  cases h
  rw [if_neg hgpus, nil_append] at hsome
  cases reachable with
  | true => exact hsome rfl
  | false =>
    obtain ⟨_, hlate⟩ := DateTime.lt_eq_ok.mp (anyE_eq_false hreachable slot hslot)
    exact absurd hadmits.early (by simpa using hlate.symm)

theorem mem_diagnoseJob (h : diagnoseJob request job = .ok issues) :
    ∀ issue ∈ issues, issue = "GPU_CAPACITY:" ++ job.id ∨ issue = "DEADLINE:" ++ job.id := by
  unfold diagnoseJob at h
  obtain ⟨reachable, _, h⟩ := bind_eq_ok.mp h
  cases h
  intro issue hmem
  rcases mem_append.mp hmem with hmem | hmem
  · exact .inl (mem_singleton.mp (mem_ite_nil_right.mp hmem).2)
  · exact .inr (mem_singleton.mp (mem_ite_nil_left.mp hmem).2)

theorem id_of_issue {issue id other : String}
    (h : issue = "GPU_CAPACITY:" ++ id ∨ issue = "DEADLINE:" ++ id)
    (h' : issue = "GPU_CAPACITY:" ++ other ∨ issue = "DEADLINE:" ++ other) : other = id := by
  rcases h with rfl | rfl
  · rcases h' with h' | h'
    · simpa using h'.symm
    · simpa using congrArg String.toList h'
  · rcases h' with h' | h'
    · simpa using congrArg String.toList h'
    · simpa using h'.symm

/-- **A report is so.** No slot admits a job that is reported. -/
theorem Reported.not_admits (hids : (request.jobs.map (·.id)).Nodup) (hjob : job ∈ request.jobs)
    (h : Reported request job) : ∀ slot ∈ request.slots, ¬ Admits job slot := by
  have hsame : ∀ other ∈ request.jobs, other.id = job.id → other = job := fun other hother heq =>
    inj_on_of_nodup_map hids hother hjob heq
  cases h with
  | constraint violations violation h hmem hsubject hid =>
    obtain ⟨lists, hlists, h⟩ := bind_eq_ok.mp h
    cases h
    obtain ⟨list, hlist, hmem⟩ := mem_flatten.mp hmem
    obtain ⟨other, hother, hconstraints⟩ := mem_of_mapM_eq_ok hlists hlist
    obtain rfl := hsame other hother
      ((hardConstraints_subject hconstraints violation hmem).symm.trans hsubject)
    exact not_admits_of_hardConstraints hconstraints hmem hid
  | diagnosis issues h hmem =>
    obtain ⟨lists, hlists, h⟩ := bind_eq_ok.mp h
    cases h
    obtain ⟨issue, hissue, hin⟩ : ∃ issue,
        (issue = "GPU_CAPACITY:" ++ job.id ∨ issue = "DEADLINE:" ++ job.id) ∧
          issue ∈ (if request.slots.isEmpty then ["NO_TIME_SLOTS"] else []) ++ lists.flatten :=
      hmem.elim (fun hmem => ⟨_, .inl rfl, hmem⟩) fun hmem => ⟨_, .inr rfl, hmem⟩
    rcases mem_append.mp hin with hin | hin
    · obtain rfl := mem_singleton.mp (mem_ite_nil_right.mp hin).2
      rcases hissue with hissue | hissue <;> simpa using congrArg String.toList hissue
    obtain ⟨list, hlist, hin⟩ := mem_flatten.mp hin
    obtain ⟨other, hother, hdiagnosis⟩ := mem_of_mapM_eq_ok hlists hlist
    obtain rfl := hsame other hother (id_of_issue hissue (mem_diagnoseJob hdiagnosis issue hin))
    exact not_admits_of_diagnoseJob hdiagnosis (ne_nil_of_mem hin)

end

/-! ## A job that no slot admits -/

section

variable {request : ScheduleInput} {job : Job}

section

variable (hduration : ∀ slot ∈ request.slots, 0 < slot.durationHours)
include hduration

theorem jobOptions_eq_nil (hnone : ∀ slot ∈ request.slots, ¬ Admits job slot)
    {windows : List (List Int)} (h : jobOptions request job = .ok windows) : windows = [] := by
  refine eq_nil_iff_forall_not_mem.mpr fun window hwindow => ?_
  obtain ⟨hslots, hsub, hcount, _⟩ := (mem_jobOptions h).mp hwindow
  have hadmitted : admitted request job = [] := by
    simpa [admitted, filter_eq_nil_iff] using hnone
  rw [hadmitted, map_nil, sublist_nil] at hsub
  have hpos := slotCount_pos hduration hslots job
  rw [hsub] at hcount
  exact absurd hcount (by simpa using hpos.ne)

/-- **The optimizer names the job.** -/
theorem optimize_names (hkind : OneKind request)
    (hcounts : ∀ job ∈ request.jobs, slotCount request job ≤ maxsize) (hjob : job ∈ request.jobs)
    (hnone : ∀ slot ∈ request.slots, ¬ Admits job slot) (contentHash : ScheduleInput → String)
    (clock : Nat → ℚ) (timeoutSeconds : ℚ) :
    ∃ result, optimize contentHash request clock timeoutSeconds = .ok result ∧
      result.status = .infeasible ∧
      "JOB_NO_FEASIBLE_WINDOW:" ++ job.id ∈ result.diagnostics := by
  obtain ⟨options, hoptions⟩ := mapM_ok (f := jobOptions request) request.jobs
    fun other hother => jobOptions_ok hduration (hcounts other hother) fun slot hslot =>
      hkind.deadline hother hslot
  obtain ⟨⟨other, windows⟩, hmem, rfl⟩ : ∃ jobWindows ∈ request.jobs.zip options,
      jobWindows.1 = job := by
    rw [← mem_map, map_fst_zip (options_length hoptions).le]
    exact hjob
  have hwindows : jobOptions request other = .ok windows :=
    forall₂_zip (mapM_eq_ok.mp hoptions) hmem
  obtain rfl := jobOptions_eq_nil hduration hnone hwindows
  refine ⟨_, optimize_noWindow contentHash clock timeoutSeconds hoptions (of_mem_zip hmem).2,
    rfl, ?_⟩
  refine mem_map_of_mem (mem_map.mpr ⟨(other, []), ?_, rfl⟩)
  exact mem_filter.mpr ⟨hmem, rfl⟩

end

/-- **The greedy planners leave the job.** -/
theorem left_of_turns (hindex : DistinctSlots request) (hduration : Lasting request)
    (hnone : ∀ slot ∈ request.slots, ¬ Admits job slot) {price : Bool} {turns : List Turn}
    (hturns : Turns request price turns) (hjob : job ∈ turns.map (·.job)) : job ∈ leftBy turns := by
  obtain ⟨turn, hturn, rfl⟩ := mem_map.mp hjob
  cases hselection : turn.selection with
  | none => exact mem_map_of_mem (mem_filter.mpr ⟨hturn, by simp [hselection]⟩)
  | some selected =>
    have hgranted : (turn.job, selected) ∈ granted turns :=
      mem_filterMap.mpr ⟨turn, hturn, by simp [hselection]⟩
    have hgrant := hturns.grant hgranted
    have hpos := slotCount_pos hduration hgrant.nonempty turn.job
    rw [← hgrant.count] at hpos
    obtain ⟨slot, hslot⟩ := exists_mem_of_length_pos (by exact_mod_cast hpos)
    have hmem := hgrant.slots.subset hslot
    have hplaced : Granted.window (turn.job, selected) ∈ placedBy turns := by
      rw [placedBy_eq_granted]
      exact mem_map_of_mem hgranted
    exact absurd ((hturns.fits hindex).within.admits _ hplaced slot hmem
      (mem_map_of_mem hslot)) (hnone slot hmem)

end

/-- A job that needs two GPUs, and one slot with one. -/
def scarceInput : ScheduleInput where
  jobs := [.simple "job-a" 2 1 10]
  slots := [.simple 0 1 5 2]
  topologyVersion := 1
  forecastVersion := "forecast-1"

/-- A job that needs two GPUs for longer than any count of slots says. -/
def endlessInput : ScheduleInput :=
  { scarceInput with jobs := [(Job.simple "job-a" 2 1 10).lasting (10 ^ 30 - 1)] }

end ComputeWeaver.Optimization
