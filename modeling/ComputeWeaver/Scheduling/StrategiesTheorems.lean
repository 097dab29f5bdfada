/-
Scheduling.StrategiesTheorems — what the greedy loop places.

A run of the loop is a list of turns, one per job, each with the slots that
`selectSlots` picks from what the turns before have left (`Turns`). The state
after some turns is a function of them (`scheduleJob_after`): allocations,
unscheduled jobs, cost and energy are sums and filters over the turns.

The turns keep one invariant (`Fits`): every slot hosts only jobs that it
admits, and the table holds each slot's capacity minus its load.
-/
import ComputeWeaver.Optimization.EngineTheorems
import ComputeWeaver.Scheduling.Strategies

namespace ComputeWeaver.Scheduling

open Lib Workloads Optimization ScheduleState
open List hiding after

/-! ## The slots of one job -/

section

variable {request : ScheduleInput} {price : Bool} {available : Dict Int Int} {job : Job}

/-- The slot starts before the deadline and has the GPUs, in what is available, and
the power. -/
def canHost (available : Dict Int Int) (job : Job) (slot : TimeSlot) : Bool :=
  decide (slot.startsAt.micros < job.sla.deadline.micros) &&
    ((available.get? slot.index).any fun free => decide (job.request.gpuCount ≤ free)) &&
    decide (job.request.powerKwPerGpu * job.request.gpuCount ≤ slot.powerCapacityKw)

variable {slot : TimeSlot}

theorem candidate_of_comparable {free : Int} (hcomparable : Dated job slot)
    (hfree : available.get? slot.index = some free) :
    candidate available job slot = .ok (canHost available job slot) := by
  unfold candidate canHost
  rw [DateTime.lt_eq_ok.mpr ⟨hcomparable, rfl⟩, ok_bind]
  by_cases hlt : slot.startsAt.micros < job.sla.deadline.micros
  · rw [if_pos (by simpa using hlt), Dict.getItem_eq_ok.mpr hfree, hfree, ok_bind]
    simp [hlt]
  · simp [hlt]

theorem candidate_eq_ok {b : Bool} (h : candidate available job slot = .ok b) :
    Dated job slot ∧ b = canHost available job slot := by
  unfold candidate at h
  obtain ⟨early, hearly, h⟩ := bind_eq_ok.mp h
  obtain ⟨hcomparable, rfl⟩ := DateTime.lt_eq_ok.mp hearly
  refine ⟨hcomparable, ?_⟩
  unfold canHost
  by_cases hlt : slot.startsAt.micros < job.sla.deadline.micros
  · rw [if_pos (by simpa using hlt)] at h
    obtain ⟨free, hfree, h⟩ := bind_eq_ok.mp h
    cases h
    simp [hlt, Dict.getItem_eq_ok.mp hfree]
  · rw [if_neg (by simpa using hlt)] at h
    cases h
    simp [hlt]

def hosts (request : ScheduleInput) (available : Dict Int Int) (job : Job) : List TimeSlot :=
  request.slots.filter (canHost available job)

/-- What the loop picks, without the exceptions. -/
def chosen (request : ScheduleInput) (price : Bool) (available : Dict Int Int) (job : Job) :
    Option (List TimeSlot) :=
  let selected := offered price (hosts request available job) (slotCount request job)
  if request.slots.isEmpty || rejected job (slotCount request job) selected then none
  else some selected

theorem selectSlots_of_comparable (hduration : Lasting request)
    (hcomparable : ∀ slot ∈ request.slots, Dated job slot)
    (havailable : ∀ slot ∈ request.slots, ∃ free, available.get? slot.index = some free) :
    selectSlots request price available job = .ok (chosen request price available job) := by
  have hcandidates : filterE (candidate available job) request.slots =
      .ok (hosts request available job) :=
    filterE_of_ok fun slot hslot => by
      obtain ⟨free, hfree⟩ := havailable slot hslot
      exact candidate_of_comparable (hcomparable slot hslot) hfree
  unfold selectSlots chosen
  cases hslots : request.slots with
  | nil => rfl
  | cons first rest =>
    have hneeded : slotsNeeded job first.durationHours = .ok (slotCount request job) := by
      rw [slotsNeeded, if_neg (hduration first (hslots ▸ mem_cons_self)).ne', slotCount, hslots]
      rfl
    dsimp only
    rw [hneeded, ← hslots, hcandidates, hslots]
    rfl

theorem selectSlots_eq_ok {selection : Option (List TimeSlot)}
    (h : selectSlots request price available job = .ok selection) :
    (∀ slot ∈ request.slots, Dated job slot) ∧ selection = chosen request price available job := by
  unfold selectSlots at h
  unfold chosen
  cases hslots : request.slots with
  | nil =>
    rw [hslots] at h
    cases h
    exact ⟨by simp, rfl⟩
  | cons first rest =>
    rw [hslots] at h
    obtain ⟨required, hrequired, h⟩ := bind_eq_ok.mp h
    obtain ⟨candidates, hcandidates, h⟩ := bind_eq_ok.mp h
    have htests := filterE_tests hcandidates
    have hhosts : candidates = hosts request available job := by
      have hfilter : filterE (candidate available job) (first :: rest) =
          .ok ((first :: rest).filter (canHost available job)) :=
        filterE_of_ok fun slot hslot => by
          obtain ⟨b, hb⟩ := htests slot hslot
          rw [hb, (candidate_eq_ok hb).2]
      rw [hosts, hslots]
      exact Except.ok.inj (hcandidates.symm.trans hfilter)
    refine ⟨fun slot hslot => ?_, ?_⟩
    · obtain ⟨b, hb⟩ := htests slot hslot
      exact (candidate_eq_ok hb).1
    · cases h
      rw [slotCount_of_ok hslots hrequired, hhosts]
      rfl

theorem candidate_eq_true (h : candidate available job slot = .ok true) :
    ∃ free, available.get? slot.index = some free ∧ job.request.gpuCount ≤ free ∧
      slot.startsAt.micros < job.sla.deadline.micros ∧
      job.request.gpuCount * job.request.powerKwPerGpu ≤ slot.powerCapacityKw := by
  obtain ⟨early, hearly, h⟩ := bind_eq_ok.mp h
  obtain ⟨_, rfl⟩ := DateTime.lt_eq_ok.mp hearly
  by_cases hlt : slot.startsAt.micros < job.sla.deadline.micros
  · simp only [hlt, decide_true, if_true] at h
    obtain ⟨free, hfree, h⟩ := bind_eq_ok.mp h
    simp only [except_pure, Except.ok.injEq, Bool.and_eq_true, decide_eq_true_eq] at h
    exact ⟨free, Dict.getItem_eq_ok.mp hfree, h.1, hlt, by rw [mul_comm]; exact h.2⟩
  · simp [hlt] at h

theorem offered_subperm (price : Bool) (candidates : List TimeSlot) (required : Int) :
    (offered price candidates required).Subperm candidates :=
  (pySorted_perm _ _).subperm.trans
    ((pyTake_sublist _ _).subperm.trans (pySorted_perm _ _).subperm)

theorem offered_length (price : Bool) {candidates : List TimeSlot} {required : Int}
    (h : 0 ≤ required) :
    ((offered price candidates required).length : Int) = required ↔
      required ≤ candidates.length := by
  simp only [offered, (pySorted_perm _ _).length_eq, pyTake, if_neg (not_lt.mpr h), length_take]
  omega

theorem selectSlots_some {selected : List TimeSlot}
    (h : selectSlots request price available job = .ok (some selected)) :
    selected.Subperm request.slots ∧
      ∀ slot ∈ selected, candidate available job slot = .ok true := by
  unfold selectSlots at h
  split at h
  · cases h
  obtain ⟨required, _, h⟩ := bind_eq_ok.mp h
  obtain ⟨candidates, hcandidates, h⟩ := bind_eq_ok.mp h
  obtain ⟨hsub, hall⟩ := filterE_kept hcandidates
  simp only [except_pure, Except.ok.injEq] at h
  split at h
  · cases h
  · cases h
    have hoffered := offered_subperm price candidates required
    exact ⟨hoffered.trans hsub.subperm, fun slot hslot => hall slot (hoffered.subset hslot)⟩

end

/-! ## The turns of the loop -/

/-- The allocation the loop appends. -/
def greedyAllocation (strategy : String) (jobWindow : Job × List Int) : Allocation :=
  ⟨jobWindow.1.id, jobWindow.2, jobWindow.1.request.gpuCount, strategy.toUpper⟩

/-- One round of the loop: the job, and the slots it was given. -/
structure Turn where
  job : Job
  selection : Option (List TimeSlot)

def Turn.placement (turn : Turn) : Option (Job × List Int) :=
  turn.selection.map fun selected => (turn.job, selected.map (·.index))

/-- The jobs that got slots. -/
def placedBy (turns : List Turn) : List (Job × List Int) := turns.filterMap Turn.placement

/-- The jobs that got none. -/
def leftBy (turns : List Turn) : List Job := (turns.filter (·.selection.isNone)).map (·.job)

def sumBy (amount : Job → TimeSlot → ℚ) (turns : List Turn) : ℚ :=
  (turns.map fun turn => ((turn.selection.getD []).map (amount turn.job)).sum).sum

def availableAfter (request : ScheduleInput) (turns : List Turn) : Dict Int Int :=
  turns.foldl (fun available turn => reserve available turn.job.request.gpuCount
    ((turn.selection.getD []).map (·.index))) (ScheduleState.start request).available

def ScheduleState.after (request : ScheduleInput) (strategy : String) (turns : List Turn) :
    ScheduleState where
  available := availableAfter request turns
  allocations := (placedBy turns).map (greedyAllocation strategy)
  unscheduled := (leftBy turns).map (·.id)
  cost := sumBy slotCost turns
  energy := sumBy slotEnergy turns

/-- Turns that the loop takes: each is offered what the earlier ones have left. -/
inductive Turns (request : ScheduleInput) (price : Bool) : List Turn → Prop
  | start : Turns request price []
  | next {turns : List Turn} {job : Job} {selection : Option (List TimeSlot)}
      (hturns : Turns request price turns)
      (hselection : selectSlots request price (availableAfter request turns) job =
        .ok selection) : Turns request price (turns ++ [⟨job, selection⟩])

section

variable {request : ScheduleInput} {strategy : String} {price : Bool} {turns : List Turn}

theorem availableAfter_append (turns : List Turn) (turn : Turn) :
    availableAfter request (turns ++ [turn]) =
      reserve (availableAfter request turns) turn.job.request.gpuCount
        ((turn.selection.getD []).map (·.index)) := by
  simp [availableAfter]

theorem sumBy_append (amount : Job → TimeSlot → ℚ) (turns : List Turn) (turn : Turn) :
    sumBy amount (turns ++ [turn]) =
      sumBy amount turns + ((turn.selection.getD []).map (amount turn.job)).sum := by
  simp [sumBy]

theorem Turns.selects (h : Turns request price turns) {before after : List Turn} {turn : Turn}
    (hsplit : turns = before ++ turn :: after) :
    selectSlots request price (availableAfter request before) turn.job = .ok turn.selection := by
  induction h generalizing after with
  | start => simp at hsplit
  | @next done job selection _ hselection ih =>
    rcases eq_nil_or_concat after with rfl | ⟨front, last, rfl⟩
    · obtain ⟨rfl, rfl⟩ := append_inj' hsplit rfl |>.imp id singleton_inj.mp
      exact hselection
    · rw [concat_eq_append, ← cons_append, ← append_assoc] at hsplit
      exact ih (append_inj' hsplit rfl).1

theorem takeSlots_eq (job : Job) (selected : List TimeSlot) (st : ScheduleState) :
    selected.foldl (takeSlot job) st =
      { st with
        available := reserve st.available job.request.gpuCount (selected.map (·.index))
        cost := st.cost + (selected.map (slotCost job)).sum
        energy := st.energy + (selected.map (slotEnergy job)).sum } := by
  induction selected generalizing st with
  | nil => simp [reserve]
  | cons slot rest ih =>
    have henergy : job.request.powerKwPerGpu * job.request.gpuCount * slot.durationHours =
        slotEnergy job slot := by
      rw [slotEnergy]
      ring
    rw [foldl_cons, ih, takeSlot, henergy]
    simp only [map_cons, sum_cons, slotCost, add_assoc]
    rfl

/-- **One round.** -/
theorem scheduleJob_after (turns : List Turn) (job : Job) :
    scheduleJob request strategy price (.after request strategy turns) job = (do
      let selection ← selectSlots request price (availableAfter request turns) job
      pure (.after request strategy (turns ++ [⟨job, selection⟩]))) := by
  refine except_bind_congr fun selection _ => ?_
  cases selection with
  | none =>
    simp [after, availableAfter_append, sumBy_append, placedBy, leftBy, Turn.placement, reserve]
  | some selected =>
    simp [takeSlots_eq, after, availableAfter_append, sumBy_append, placedBy, leftBy,
      Turn.placement, greedyAllocation]

/-- **The loop.** Every run of it is a sequence of turns. -/
theorem turns_of_loop (jobs : List Job) {final : ScheduleState} (hturns : Turns request price turns)
    (h : jobs.foldlM (scheduleJob request strategy price) (.after request strategy turns) =
      .ok final) :
    ∃ more, Turns request price (turns ++ more) ∧ more.map (·.job) = jobs ∧
      final = .after request strategy (turns ++ more) := by
  induction jobs generalizing turns with
  | nil =>
    cases h
    exact ⟨[], by simpa using hturns, rfl, by simp⟩
  | cons job rest ih =>
    rw [foldlM_cons, scheduleJob_after] at h
    obtain ⟨_, hnext, h⟩ := bind_eq_ok.mp h
    obtain ⟨selection, hselection, hnext⟩ := bind_eq_ok.mp hnext
    cases hnext
    obtain ⟨more, hmore, hjobs, hfinal⟩ := ih (hturns.next hselection) h
    refine ⟨⟨job, selection⟩ :: more, ?_, ?_, ?_⟩
    · simpa using hmore
    · rw [map_cons, hjobs]
    · simpa using hfinal

variable {contentHash : ScheduleInput → String} {orderedJobs : List Job} {plan : SchedulePlan}
  {job : Job}

theorem turns_of_schedule (h : schedule contentHash request orderedJobs strategy price = .ok plan) :
    ∃ turns, Turns request price turns ∧ turns.map (·.job) = orderedJobs ∧
      plan = (after request strategy turns).plan contentHash request strategy := by
  obtain ⟨st, hst, h⟩ := bind_eq_ok.mp h
  obtain ⟨_, _, h⟩ := bind_eq_ok.mp h
  cases h
  obtain ⟨turns, hturns, hjobs, rfl⟩ := turns_of_loop orderedJobs .start hst
  exact ⟨turns, hturns, hjobs, rfl⟩

/-! ## The load of the slots -/

theorem placedBy_append (turns : List Turn) (turn : Turn) :
    placedBy (turns ++ [turn]) = placedBy turns ++ turn.placement.toList := by
  cases hplacement : turn.placement <;> simp [placedBy, hplacement]

theorem map_fst_placedBy (turns : List Turn) :
    ((placedBy turns).map Prod.fst).Sublist (turns.map (·.job)) := by
  induction turns with
  | nil => exact .slnil
  | cons turn rest ih =>
    cases hselection : turn.selection with
    | none =>
      simp only [placedBy, filterMap_cons, Turn.placement, hselection, Option.map_none]
      exact ih.cons _
    | some selected =>
      simp only [placedBy, filterMap_cons, Turn.placement, hselection, Option.map_some]
      exact ih.cons_cons _

theorem selected_nodup (hindex : DistinctSlots request) {available : Dict Int Int}
    {selected : List TimeSlot} (h : selectSlots request price available job = .ok (some selected)) :
    (selected.map (·.index)).Nodup := by
  obtain ⟨sorted, hperm, hsublist⟩ := (selectSlots_some h).1
  exact (hperm.map _).nodup_iff.mp (hindex.sublist (hsublist.map _))

/-- The turns fit, and the table holds what they leave. -/
structure Fits (request : ScheduleInput) (turns : List Turn) : Prop where
  within : WithinGpus request (placedBy turns)
  available : ∀ slot ∈ request.slots, (availableAfter request turns).get? slot.index =
    some (slot.gpuCapacity - placedGpus (placedBy turns) slot.index)

section

variable (hindex : (request.slots.map (·.index)).Nodup)
include hindex

theorem Fits.start : Fits request [] where
  within := ⟨by simp [placedBy], by simp [placedBy]⟩
  available := fun slot hslot => by
    rw [placedBy, filterMap_nil, placedGpus_eq_zero (by simp), sub_zero]
    exact start_capacity hindex hslot

/-- **One turn.** A job is only given slots with room for it. -/
theorem Fits.next (h : Fits request turns) {selection : Option (List TimeSlot)}
    (hselection : selectSlots request price (availableAfter request turns) job = .ok selection) :
    Fits request (turns ++ [⟨job, selection⟩]) := by
  cases selection with
  | none =>
    have hplaced : placedBy (turns ++ [⟨job, none⟩]) = placedBy turns := by
      rw [placedBy_append]
      exact append_nil _
    have havailable : availableAfter request (turns ++ [⟨job, none⟩]) =
        availableAfter request turns := availableAfter_append _ _
    exact ⟨hplaced ▸ h.within, fun slot hslot => by
      rw [hplaced, havailable]
      exact h.available slot hslot⟩
  | some selected =>
    have hplaced : placedBy (turns ++ [⟨job, some selected⟩]) =
        placedBy turns ++ [(job, selected.map (·.index))] := placedBy_append _ _
    have havailable : availableAfter request (turns ++ [⟨job, some selected⟩]) =
        reserve (availableAfter request turns) job.request.gpuCount (selected.map (·.index)) :=
      availableAfter_append _ _
    obtain ⟨hsub, hcandidate⟩ := selectSlots_some hselection
    -- a slot of the request whose index was selected is the selected slot itself
    have hselected : ∀ slot ∈ request.slots, slot.index ∈ selected.map (·.index) →
        slot ∈ selected := fun slot hslot hmem => by
      obtain ⟨other, hother, heq⟩ := mem_map.mp hmem
      rwa [← slot_eq_of_index hindex (hsub.subset hother) hslot heq]
    have hroom : ∀ slot ∈ request.slots, slot.index ∈ selected.map (·.index) →
        placedGpus (placedBy turns) slot.index + job.request.gpuCount ≤ slot.gpuCapacity ∧
          Admits job slot := fun slot hslot hmem => by
      obtain ⟨free, hfree, hgpus, hearly, hpower⟩ :=
        candidate_eq_true (hcandidate slot (hselected slot hslot hmem))
      rw [h.available slot hslot, Option.some.injEq] at hfree
      have hnonneg := placedGpus_nonneg (placedBy turns) slot.index
      exact ⟨by omega, hearly, by omega, hpower⟩
    constructor
    · rw [hplaced]
      constructor
      · intro jobWindow hmem slot hslot hin
        rcases mem_append.mp hmem with hmem | hmem
        · exact h.within.admits jobWindow hmem slot hslot hin
        · cases mem_singleton.mp hmem
          exact (hroom slot hslot hin).2
      · rintro slot hslot ⟨jobWindow, hmem, hin⟩
        rw [placedGpus_append]
        by_cases hnew : slot.index ∈ selected.map (·.index)
        · rw [if_pos hnew]
          exact (hroom slot hslot hnew).1
        rw [if_neg hnew, add_zero]
        rcases mem_append.mp hmem with hmem | hmem
        · exact h.within.gpus slot hslot ⟨jobWindow, hmem, hin⟩
        · cases mem_singleton.mp hmem
          exact absurd hin hnew
    · intro slot hslot
      rw [havailable, get?_reserve (selected_nodup hindex hselection), h.available slot hslot,
        hplaced, placedGpus_append, Option.map_some]
      congr 1
      split <;> omega

/-- **All turns.** -/
theorem Turns.fits (h : Turns request price turns) : Fits request turns := by
  induction h with
  | start => exact Fits.start hindex
  | next _ hselection ih => exact ih.next hindex hselection

end

theorem places_turns
    (hallocations : plan.allocations = (placedBy turns).map (greedyAllocation strategy))
    (hjobs : (turns.map (·.job)).Perm request.jobs) : Places request plan (placedBy turns) where
  allocations := by
    rw [hallocations]
    exact forall₂_map_left_iff.mpr (forall₂_same.mpr fun _ _ => ⟨rfl, rfl, rfl⟩)
  jobs := (map_fst_placedBy turns).subperm.trans hjobs.subperm

/-- **What the loop places fits.** A returned plan places jobs of the request
in slots that admit them, within the GPUs of every slot. -/
theorem schedule_places (hindex : DistinctSlots request) (hjobs : orderedJobs.Perm request.jobs)
    (h : schedule contentHash request orderedJobs strategy price = .ok plan) :
    ∃ placed, Places request plan placed ∧ WithinGpus request placed := by
  obtain ⟨turns, hturns, rfl, rfl⟩ := turns_of_schedule h
  exact ⟨placedBy turns, places_turns rfl hjobs, (hturns.fits hindex).within⟩

end

theorem sortJobs_perm {comparable le : Job → Job → Bool} {jobs ordered : List Job}
    (h : sortJobs comparable le jobs = .ok ordered) : ordered.Perm jobs := by
  unfold sortJobs at h
  split at h
  · cases h
    exact pySorted_perm _ _
  · cases h

end ComputeWeaver.Scheduling
