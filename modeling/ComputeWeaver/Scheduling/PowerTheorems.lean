/-
Scheduling.PowerTheorems — the power limit of a slot.

Every planner tests the power of a job against a slot with the job ALONE in it.
Nothing adds up the power of the jobs that share a slot, and the plan check
does not look at power at all. So a greedy planner keeps a slot's limit only where
the last job that it places there finds the power that the earlier ones leave
(`LeavesPower`), and an optimizer where the assignment does that it records last.
-/
import ComputeWeaver.Scheduling.WindowsTheorems

namespace ComputeWeaver.Scheduling

open Lib Workloads Optimization Function List

/-! ## The power in a slot -/

def jobPower (job : Job) : ℚ := job.request.gpuCount * job.request.powerKwPerGpu

/-- The power of the jobs that a placement puts in a slot. -/
def placedPower (placed : List (Job × List Int)) (i : Int) : ℚ :=
  ((placed.filter fun jobWindow => decide (i ∈ jobWindow.2)).map fun jobWindow =>
    jobPower jobWindow.1).sum

/-- In every slot the power of the jobs placed there sums to at most the slot's power
capacity. -/
def KeepsPower (request : ScheduleInput) (placed : List (Job × List Int)) : Prop :=
  ∀ slot ∈ request.slots, placedPower placed slot.index ≤ slot.powerCapacityKw

instance (request : ScheduleInput) (placed : List (Job × List Int)) :
    Decidable (KeepsPower request placed) :=
  inferInstanceAs (Decidable (∀ slot ∈ request.slots, _))

theorem placedPower_append (placed placed' : List (Job × List Int)) (i : Int) :
    placedPower (placed ++ placed') i = placedPower placed i + placedPower placed' i := by
  simp [placedPower]

/-! ## The turns of a greedy planner -/

def Turn.slots (turn : Turn) : List Int := (turn.selection.getD []).map (·.index)

theorem placedPower_turn (turn : Turn) (i : Int) :
    placedPower (placedBy [turn]) i = if i ∈ turn.slots then jobPower turn.job else 0 := by
  unfold Turn.slots
  cases hselection : turn.selection with
  | none =>
    have hplaced : placedBy [turn] = [] := by simp [placedBy, Turn.placement, hselection]
    simp [hplaced, placedPower]
  | some selected =>
    have hplaced : placedBy [turn] = [(turn.job, selected.map (·.index))] := by
      simp [placedBy, Turn.placement, hselection]
    rw [hplaced, Option.getD_some]
    by_cases hi : i ∈ selected.map (·.index)
    · rw [placedPower, filter_cons_of_pos (by simpa using hi), if_pos hi]
      simp
    · rw [placedPower, filter_cons_of_neg (by simpa using hi), if_neg hi]
      rfl

theorem placedPower_eq_zero {turns : List Turn} {i : Int} (h : ∀ turn ∈ turns, i ∉ turn.slots) :
    placedPower (placedBy turns) i = 0 := by
  induction turns with
  | nil => rfl
  | cons turn rest ih =>
    obtain ⟨hturn, hrest⟩ := forall_mem_cons.mp h
    have hsplit : placedBy (turn :: rest) = placedBy [turn] ++ placedBy rest :=
      filterMap_append (l := [turn])
    rw [hsplit, placedPower_append, placedPower_turn, if_neg hturn, ih hrest, add_zero]

/-- The last job that is placed in a slot finds the power it needs beside the earlier
ones. A slot in which none is placed has no limit below zero. -/
structure LeavesPower (request : ScheduleInput) (turns : List Turn) : Prop where
  last : ∀ before turn after, turns = before ++ turn :: after → ∀ slot ∈ request.slots,
    slot.index ∈ turn.slots → (∀ later ∈ after, slot.index ∉ later.slots) →
      jobPower turn.job ≤ slot.powerCapacityKw - placedPower (placedBy before) slot.index
  unused : ∀ slot ∈ request.slots, (∀ turn ∈ turns, slot.index ∉ turn.slots) →
    0 ≤ slot.powerCapacityKw

section

variable {request : ScheduleInput} {turns before after : List Turn} {turn : Turn} {i : Int}

/-- The last turn that takes a slot, if one does. -/
theorem last_taker (turns : List Turn) (i : Int) :
    (∀ turn ∈ turns, i ∉ turn.slots) ∨ ∃ before turn after, turns = before ++ turn :: after ∧
      i ∈ turn.slots ∧ ∀ later ∈ after, i ∉ later.slots := by
  induction turns with
  | nil => exact .inl (by simp)
  | cons turn rest ih =>
    rcases ih with hnone | ⟨before, taker, after, rfl, htakes, hlater⟩
    · by_cases htakes : i ∈ turn.slots
      · exact .inr ⟨[], turn, rest, rfl, htakes, hnone⟩
      · exact .inl (forall_mem_cons.mpr ⟨htakes, hnone⟩)
    · exact .inr ⟨turn :: before, taker, after, rfl, htakes, hlater⟩

theorem placedPower_of_last (hsplit : turns = before ++ turn :: after) (htakes : i ∈ turn.slots)
    (hlater : ∀ later ∈ after, i ∉ later.slots) :
    placedPower (placedBy turns) i = placedPower (placedBy before) i + jobPower turn.job := by
  have hturns : placedBy turns = placedBy before ++ (placedBy [turn] ++ placedBy after) := by
    rw [hsplit, placedBy, filterMap_append, ← singleton_append, filterMap_append]
    rfl
  rw [hturns, placedPower_append, placedPower_append, placedPower_turn, if_pos htakes,
    placedPower_eq_zero hlater, add_zero]

theorem keepsPower_iff_leavesPower :
    KeepsPower request (placedBy turns) ↔ LeavesPower request turns := by
  constructor
  · intro hkeeps
    constructor
    · intro before turn after hsplit slot hslot htakes hlater
      have hle := hkeeps slot hslot
      rw [placedPower_of_last hsplit htakes hlater] at hle
      exact le_sub_iff_add_le'.mpr hle
    · intro slot hslot hnone
      exact placedPower_eq_zero hnone ▸ hkeeps slot hslot
  · intro hleaves slot hslot
    rcases last_taker turns slot.index with hnone | ⟨before, turn, after, hsplit, htakes, hlater⟩
    · rw [placedPower_eq_zero hnone]
      exact hleaves.unused slot hslot hnone
    · rw [placedPower_of_last hsplit htakes hlater]
      exact le_sub_iff_add_le'.mp
        (hleaves.last before turn after hsplit slot hslot htakes hlater)

end

/-! ## The limit that the planners keep -/

/-- Two jobs that cannot share the second slot, where the first has a single GPU. -/
def apartInput : ScheduleInput where
  jobs := [.simple "job-a" 1 4 10, .simple "job-b" 1 2 10]
  slots := [.simple 0 1 5 1, .simple 1 2 5 100]
  topologyVersion := 1
  forecastVersion := "forecast-1"

/-- Two jobs of 3 kW each, and one slot of 5 kW with GPUs for both. -/
def sharedSlotInput : ScheduleInput where
  jobs := [.simple "job-a" 1 3 10, .simple "job-b" 1 3 10]
  slots := [.simple 0 2 5 2]
  topologyVersion := 1
  forecastVersion := "forecast-1"

end ComputeWeaver.Scheduling
