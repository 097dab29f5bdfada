/-
Tariffs.VersionTheorems — overlapping versions of a tariff
(`validate_tariff_versions` of `packages/tariffs/calculator.py`).

Only neighbours in the order of their start are compared. For versions that do
not end before they start this is enough (`checked_iff`).
-/
import ComputeWeaver.Tariffs.Models

namespace ComputeWeaver.Tariffs

open Lib List

def TariffFields.activeOn (plan : TariffFields) (localDate : Int) : Bool :=
  decide (plan.effectiveFrom ≤ localDate) && plan.effectiveTo.all fun date => localDate < date

/-- `by_id.setdefault(plan.id, []).append(plan)`. -/
def addPlan (byId : Dict String (List TariffPlan)) (plan : TariffPlan) :
    Dict String (List TariffPlan) :=
  byId.set plan.id ((byId.get? plan.id).getD [] ++ [plan])

/-- The check of a version against the next one. -/
def checkNeighbours (pair : TariffPlan × TariffPlan) : Except PyError Unit :=
  if pair.1.effectiveTo.all fun date => pair.2.effectiveFrom < date then
    throw (.valueError "overlapping tariff versions")
  else pure ()

/-- `sorted(versions, key=lambda item: item.effective_from)`. -/
def ordered (versions : List TariffPlan) : List TariffPlan :=
  pySorted (fun a b => decide (a.effectiveFrom ≤ b.effectiveFrom)) versions

def validateTariffVersions (plans : List TariffPlan) : Except PyError Unit :=
  (plans.foldl addPlan .empty).entries.forM fun entry =>
    ((ordered entry.2).zip (ordered entry.2).tail).forM checkNeighbours

/-! ## One tariff -/

/-- The plan does not end before it starts. -/
def Proper (plan : TariffPlan) : Prop :=
  ∀ date, plan.effectiveTo = some date → plan.effectiveFrom < date

/-- The first plan ends by the start of the second. -/
def Before (a b : TariffPlan) : Prop := ∃ date, a.effectiveTo = some date ∧ date ≤ b.effectiveFrom

variable {versions plans : List TariffPlan}

theorem checkNeighbours_eq_ok {a b : TariffPlan} :
    checkNeighbours (a, b) = .ok () ↔ Before a b := by
  unfold checkNeighbours Before
  cases a.effectiveTo <;> simp

theorem Before.trans {a b c : TariffPlan} (hb : Proper b) (hab : Before a b) (hbc : Before b c) :
    Before a c := by
  obtain ⟨first, hfirst, hle⟩ := hab
  obtain ⟨second, hsecond, hle'⟩ := hbc
  exact ⟨first, hfirst, (hle.trans (hb second hsecond).le).trans hle'⟩

/-- Neighbours in order are enough, since no version ends before it starts. -/
theorem checked_iff (hproper : ∀ plan ∈ versions, Proper plan) :
    (versions.zip versions.tail).forM checkNeighbours = .ok () ↔ versions.Pairwise Before := by
  rw [forM_eq_ok]
  induction versions with
  | nil => simp
  | cons a rest ih =>
    obtain ⟨-, hrest⟩ := forall_mem_cons.mp hproper
    cases rest with
    | nil => simp
    | cons b rest =>
      rw [tail_cons, zip_cons_cons, forall_mem_cons, checkNeighbours_eq_ok,
        pairwise_cons, ← ih hrest, tail_cons]
      refine and_congr_left fun hchain => ⟨fun hab c hc => ?_, fun h => h b mem_cons_self⟩
      have hpairs := (ih hrest).mp hchain
      rcases mem_cons.mp hc with rfl | hc
      · exact hab
      · exact hab.trans (hrest b mem_cons_self) ((pairwise_cons.mp hpairs).1 c hc)

theorem pairwise_ordered (versions : List TariffPlan) :
    (ordered versions).Pairwise fun a b => a.effectiveFrom ≤ b.effectiveFrom := by
  have : Std.Total fun a b : TariffPlan => decide (a.effectiveFrom ≤ b.effectiveFrom) = true :=
    ⟨fun a b => by simpa using le_total a.effectiveFrom b.effectiveFrom⟩
  have : IsTrans TariffPlan fun a b => decide (a.effectiveFrom ≤ b.effectiveFrom) = true :=
    ⟨fun a b c hab hbc => by simp_all only [decide_eq_true_eq]; exact hab.trans hbc⟩
  simpa [ordered, pySorted] using pairwise_insertionSort
    (fun a b : TariffPlan => decide (a.effectiveFrom ≤ b.effectiveFrom) = true) versions

/-- In order, the versions are apart exactly if no date has two of them. -/
theorem pairwise_before_iff
    (hsorted : versions.Pairwise fun a b => a.effectiveFrom ≤ b.effectiveFrom)
    (hproper : ∀ plan ∈ versions, Proper plan) :
    versions.Pairwise Before ↔
      ∀ date, (versions.filter fun plan => plan.activeOn date).length ≤ 1 := by
  constructor
  · intro hbefore date
    have hapart : (versions.filter fun plan => plan.activeOn date).Pairwise fun _ _ => False := by
      refine List.Pairwise.imp_of_mem ?_ (hbefore.filter _)
      rintro a b ha hb ⟨last, hlast, hle⟩
      simp only [mem_filter, TariffFields.activeOn, hlast, Option.all_some,
        Bool.and_eq_true, decide_eq_true_eq] at ha hb
      omega
    cases hactive : versions.filter fun plan => plan.activeOn date with
    | nil => simp
    | cons a rest =>
      rw [hactive, pairwise_cons] at hapart
      simpa [eq_nil_iff_forall_not_mem] using hapart.1
  · intro hone
    rw [pairwise_iff_forall_sublist] at hsorted ⊢
    intro a b hab
    by_contra hnot
    -- both are active on the day the second starts
    have hactive : [a, b].filter (fun plan => plan.activeOn b.effectiveFrom) = [a, b] := by
      have hfrom := hsorted hab
      have hb := hproper b (hab.subset (by simp))
      unfold Before at hnot
      unfold Proper at hb
      cases ha : a.effectiveTo <;> cases hto : b.effectiveTo <;>
        simp_all [TariffFields.activeOn]
    have hlength := (hab.filter fun plan => plan.activeOn b.effectiveFrom).length_le
    rw [hactive] at hlength
    exact absurd (hlength.trans (hone b.effectiveFrom)) (by simp)

/-! ## All tariffs -/

theorem get?_foldl_addPlan (plans : List TariffPlan) (byId : Dict String (List TariffPlan))
    (id : String) :
    ((plans.foldl addPlan byId).get? id).getD [] =
      (byId.get? id).getD [] ++ plans.filter fun plan => plan.id = id := by
  induction plans generalizing byId with
  | nil => simp
  | cons plan rest ih =>
    rw [foldl_cons, ih, addPlan, Dict.get?_set]
    by_cases hid : plan.id = id <;> simp [hid]

/-- **Main result.** For plans that do not end before they start the check
passes exactly if no tariff has two plans that are active on the same date. -/
theorem validateTariffVersions_iff (plans : List TariffPlan)
    (hproper : ∀ plan ∈ plans, ∀ date, plan.effectiveTo = some date → plan.effectiveFrom < date) :
    validateTariffVersions plans = .ok () ↔ ∀ id date,
      (plans.filter fun plan => plan.id = id ∧ plan.activeOn date = true).length ≤ 1 := by
  have hone : ∀ id, ((ordered (plans.filter fun plan => plan.id = id)).zip
      (ordered (plans.filter fun plan => plan.id = id)).tail).forM checkNeighbours = .ok () ↔
      ∀ date, (plans.filter fun plan => plan.id = id ∧ plan.activeOn date = true).length ≤ 1 := by
    intro id
    have hperm : (ordered (plans.filter fun plan => plan.id = id)).Perm _ := pySorted_perm _ _
    have hmem : ∀ plan ∈ ordered (plans.filter fun plan => plan.id = id), Proper plan :=
      fun plan h => hproper plan (mem_of_mem_filter (hperm.subset h))
    rw [checked_iff hmem, pairwise_before_iff (pairwise_ordered _) hmem]
    refine forall_congr' fun date => ?_
    rw [(hperm.filter _).length_eq, filter_filter]
    simp [Bool.and_comm]
  simp only [← hone]
  have hgroups := fun id => get?_foldl_addPlan plans .empty id
  simp only [Dict.get?_empty, Option.getD_none, nil_append] at hgroups
  rw [validateTariffVersions, forM_eq_ok]
  constructor
  · intro h id
    rw [← hgroups]
    cases hget : (plans.foldl addPlan .empty).get? id with
    | none => rfl
    | some versions => exact h (id, versions) (Dict.mem_entries_iff.mpr hget)
  · rintro h ⟨id, versions⟩ hmem
    have hid := h id
    rwa [← hgroups, Dict.mem_entries_iff.mp hmem] at hid

def yearPlan (effectiveFrom : Int) (effectiveTo : Option Int) : TariffPlan where
  id := "grid"
  version := 1
  currency := "EUR"
  timezone := "UTC"
  effectiveFrom := effectiveFrom
  effectiveTo := effectiveTo
  periods := [⟨"all", 0, 0, .finite 1, ∅⟩]
  demandChargePerKw := .finite 0
  capacityChargePerKw := .finite 0
  taxRate := .finite 0
  feedInPricePerKwh := .finite 0
  checked := rfl

theorem validateTariffVersions_iff_yearPlan :
    validateTariffVersions [yearPlan 10 none, yearPlan 0 (some 10)] = .ok () ↔ ∀ id date,
      ([yearPlan 10 none, yearPlan 0 (some 10)].filter fun plan =>
        plan.id = id ∧ plan.activeOn date = true).length ≤ 1 :=
  validateTariffVersions_iff _ (by simp [yearPlan])

end ComputeWeaver.Tariffs
