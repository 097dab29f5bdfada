/-
Energy.BatteryTheorems — the energy that a battery gives
(`packages/energy/assets.py`, `packages/energy/battery.py`).

Decimals are exact rationals. The checks of `Battery.__post_init__` are fields.
-/
import Mathlib.Data.Rat.Cast.Order
import Mathlib.Tactic.LinearCombination
import Mathlib.Tactic.Linarith
import ComputeWeaver.Lib.Python

namespace ComputeWeaver.Energy

open Lib List

structure Battery where
  capacityKwh : ℚ
  maxChargeKw : ℚ
  maxDischargeKw : ℚ
  chargeEfficiency : ℚ
  dischargeEfficiency : ℚ
  minSoc : ℚ
  maxSoc : ℚ
  reserveSoc : ℚ
  charge_efficiency : 0 < chargeEfficiency ∧ chargeEfficiency ≤ 1
  discharge_efficiency : 0 < dischargeEfficiency ∧ dischargeEfficiency ≤ 1
  soc_bounds : 0 ≤ minSoc ∧ minSoc ≤ reserveSoc ∧ reserveSoc ≤ maxSoc ∧ maxSoc ≤ 1

/-- The keyword arguments of `next_soc`. -/
structure Dispatch where
  chargeKw : ℚ
  dischargeKw : ℚ
  durationHours : ℚ

/-- `stored_delta - withdrawn_delta`. -/
def Battery.delta (asset : Battery) (dispatch : Dispatch) : ℚ :=
  dispatch.chargeKw * asset.chargeEfficiency * dispatch.durationHours -
    dispatch.dischargeKw / asset.dischargeEfficiency * dispatch.durationHours

/-- The state of charge after a dispatch, before it is checked. -/
def Battery.dispatched (asset : Battery) (soc : ℚ) (dispatch : Dispatch) : ℚ :=
  soc + asset.delta dispatch / asset.capacityKwh

def nextSoc (asset : Battery) (soc : ℚ) (dispatch : Dispatch) : Except PyError ℚ :=
  if dispatch.chargeKw < 0 ∨ dispatch.dischargeKw < 0 ∨ dispatch.durationHours ≤ 0 then
    throw (.valueError "battery dispatch values must be non-negative and duration positive")
  else if 0 < dispatch.chargeKw ∧ 0 < dispatch.dischargeKw then
    throw (.valueError "battery cannot charge and discharge simultaneously")
  else if asset.maxChargeKw < dispatch.chargeKw ∨ asset.maxDischargeKw < dispatch.dischargeKw then
    throw (.valueError "battery power limit exceeded")
  else if asset.capacityKwh = 0 then
    throw (if asset.delta dispatch = 0 then .invalidOperation else .zeroDivisionError)
  else if asset.minSoc ≤ asset.dispatched soc dispatch ∧
      asset.dispatched soc dispatch ≤ asset.maxSoc then
    pure (asset.dispatched soc dispatch)
  else throw (.valueError "battery SOC bound violated")

def chargedEnergy (dispatches : List Dispatch) : ℚ :=
  (dispatches.map fun dispatch => dispatch.chargeKw * dispatch.durationHours).sum

def dischargedEnergy (dispatches : List Dispatch) : ℚ :=
  (dispatches.map fun dispatch => dispatch.dischargeKw * dispatch.durationHours).sum

variable {asset : Battery} {start soc final : ℚ} {dispatches : List Dispatch}

/-- **One dispatch.** -/
theorem nextSoc_eq_ok {dispatch : Dispatch} (h : nextSoc asset start dispatch = .ok soc) :
    soc = asset.dispatched start dispatch ∧ asset.minSoc ≤ soc ∧ soc ≤ asset.maxSoc := by
  unfold nextSoc at h
  iterate 4
    split at h
    · cases h
  split at h
  · rename_i hbounds
    cases h
    exact ⟨rfl, hbounds⟩
  · cases h

/-- **A whole run.** The stored energy changes by what the dispatches store and
withdraw. -/
theorem run_soc (hcapacity : 0 < asset.capacityKwh)
    (hstart : asset.minSoc ≤ start ∧ start ≤ asset.maxSoc)
    (h : dispatches.foldlM (nextSoc asset) start = .ok final) :
    (asset.minSoc ≤ final ∧ final ≤ asset.maxSoc) ∧
    asset.capacityKwh * (final - start) = asset.chargeEfficiency * chargedEnergy dispatches -
      dischargedEnergy dispatches / asset.dischargeEfficiency := by
  induction dispatches generalizing start with
  | nil =>
    cases h
    exact ⟨hstart, by simp [chargedEnergy, dischargedEnergy]⟩
  | cons dispatch rest ih =>
    rw [foldlM_cons] at h
    obtain ⟨soc, hsoc, hrest⟩ := bind_eq_ok.mp h
    obtain ⟨rfl, hbounds⟩ := nextSoc_eq_ok hsoc
    obtain ⟨hfinal, hrest⟩ := ih hbounds hrest
    refine ⟨hfinal, ?_⟩
    have hstep : asset.capacityKwh * (asset.dispatched start dispatch - start) =
        asset.delta dispatch := by
      rw [Battery.dispatched, add_sub_cancel_left, mul_div_cancel₀ _ hcapacity.ne']
    rw [Battery.delta] at hstep
    simp only [chargedEnergy, dischargedEnergy, map_cons, sum_cons] at hrest ⊢
    linear_combination hstep + hrest

/-- **Main result.** Along every accepted sequence of dispatches the state of
charge stays within its bounds, and no more is discharged than was stored. -/
theorem no_energy_from_nothing (asset : Battery) (hcapacity : 0 < asset.capacityKwh) (start : ℚ)
    (hstart : asset.minSoc ≤ start ∧ start ≤ asset.maxSoc) (dispatches : List Dispatch)
    (final : ℚ) (h : dispatches.foldlM (nextSoc asset) start = .ok final) :
    (∀ before after, dispatches = before ++ after →
      ∃ soc, before.foldlM (nextSoc asset) start = .ok soc ∧
        asset.minSoc ≤ soc ∧ soc ≤ asset.maxSoc) ∧
    dischargedEnergy dispatches ≤ asset.dischargeEfficiency *
      (asset.capacityKwh * (start - asset.minSoc) +
        asset.chargeEfficiency * chargedEnergy dispatches) := by
  constructor
  · rintro before after rfl
    rw [foldlM_append] at h
    obtain ⟨soc, hsoc, -⟩ := bind_eq_ok.mp h
    exact ⟨soc, hsoc, (run_soc hcapacity hstart hsoc).1⟩
  · obtain ⟨hfinal, hbalance⟩ := run_soc hcapacity hstart h
    have hstored := mul_le_mul_of_nonneg_left hfinal.1 hcapacity.le
    rw [← div_le_iff₀' asset.discharge_efficiency.1]
    linarith

def unitBattery : Battery :=
  ⟨1, 1, 1, 1, 1, 0, 1, 0, ⟨zero_lt_one, le_rfl⟩, ⟨zero_lt_one, le_rfl⟩,
    ⟨le_rfl, le_rfl, zero_le_one, le_rfl⟩⟩

theorem no_energy_from_nothing_unitBattery :
    let dispatches : List Dispatch := [⟨1, 0, 1⟩, ⟨0, 1, 1⟩]
    dischargedEnergy dispatches ≤ 1 * (1 * (0 - 0) + 1 * chargedEnergy dispatches) :=
  (no_energy_from_nothing unitBattery zero_lt_one 0 ⟨le_rfl, zero_le_one⟩ _ 0
    (by decide +kernel)).2

end ComputeWeaver.Energy
