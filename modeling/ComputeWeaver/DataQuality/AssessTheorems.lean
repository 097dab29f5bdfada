/-
DataQuality.AssessTheorems — the missing values that an assessment
reports (`packages/data_quality/service.py`).

Times are in microseconds, decimals are exact rationals. The quotient of two
timedeltas is a float: `float` is what it makes of the exact quotient.
-/
import Mathlib.Data.Finset.Card
import Mathlib.Data.Rat.Cast.Order
import Mathlib.Tactic.Linarith
import ComputeWeaver.Lib.Python

namespace ComputeWeaver.DataQuality

open Lib List

/-- What is assessed of a `NormalizedPoint`. -/
structure Point where
  timestamp : Int
  value : ℚ

structure QualityAssessment where
  score : ℚ
  status : String
  missing : Int
  stale : Nat
  duplicates : Nat
  outliers : Nat
  conflicts : Nat
  reasons : List String

def assess (float : ℚ → ℚ) (points : List Point)
    (expectedStart expectedEnd expectedStep now staleAfter : Int) (minimum maximum : Option ℚ) :
    Except PyError QualityAssessment :=
  if expectedStep = 0 then throw .zeroDivisionError
  else
    let quotient := float ((expectedEnd - expectedStart : Int) / expectedStep)
    let expected := max 1 (quotient.num.tdiv quotient.den)
    let uniqueTimes := (points.map (·.timestamp)).toFinset
    let duplicates := points.length - uniqueTimes.card
    let missing := max 0 (expected - uniqueTimes.card)
    let stale := points.countP fun point => staleAfter < now - point.timestamp
    let outliers := points.countP fun point =>
      minimum.any (point.value < ·) || maximum.any (· < point.value)
    let conflicts := (uniqueTimes.filter fun time =>
      1 < ((points.filter (·.timestamp = time)).map (·.value)).toFinset.card).card
    let penalty : ℚ := (missing + stale + duplicates + outliers + conflicts : Int) /
      (max (max expected points.length) 1 : Int)
    let score := max 0 (1 - penalty)
    let reasons := ([("missing", missing), ("stale", stale), ("duplicate", duplicates),
      ("outlier", outliers), ("conflict", conflicts)].filter (·.2 ≠ 0)).map Prod.fst
    let status := if 9 / 10 ≤ score then "good" else if 6 / 10 ≤ score then "degraded" else "bad"
    pure ⟨score, status, missing, stale, duplicates, outliers, conflicts, reasons⟩

def InCell (expectedStart expectedStep : Int) (i : Nat) (time : Int) : Prop :=
  expectedStart + i * expectedStep ≤ time ∧ time < expectedStart + (i + 1) * expectedStep

instance (expectedStart expectedStep : Int) (i : Nat) (time : Int) :
    Decidable (InCell expectedStart expectedStep i time) := inferInstanceAs (Decidable (_ ∧ _))

def occupiedCells (points : List Point) (expectedStart expectedStep : Int) (n : Nat) :
    Finset Nat :=
  (Finset.range n).filter fun i =>
    ∃ point ∈ points, InCell expectedStart expectedStep i point.timestamp

def emptyCells (points : List Point) (expectedStart expectedStep : Int) (n : Nat) : Finset Nat :=
  (Finset.range n).filter fun i =>
    ¬ ∃ point ∈ points, InCell expectedStart expectedStep i point.timestamp

def times (points : List Point) : Finset Int := (points.map (·.timestamp)).toFinset

variable {points : List Point} {expectedStart expectedStep : Int} {n : Nat}

theorem card_cells (points : List Point) (expectedStart expectedStep : Int) (n : Nat) :
    (occupiedCells points expectedStart expectedStep n).card +
      (emptyCells points expectedStart expectedStep n).card = n := by
  have hsplit := Finset.card_filter_add_card_filter_not (s := Finset.range n) fun i =>
    ∃ point ∈ points, InCell expectedStart expectedStep i point.timestamp
  rwa [Finset.card_range] at hsplit

/-- Every point is in a cell of the window, and different times are in different
cells. -/
structure OnePerCell (points : List Point) (expectedStart expectedStep : Int) (n : Nat) :
    Prop where
  window : ∀ point ∈ points, ∃ i < n, InCell expectedStart expectedStep i point.timestamp
  apart : ∀ p ∈ points, ∀ q ∈ points, ∀ i, InCell expectedStart expectedStep i p.timestamp →
    InCell expectedStart expectedStep i q.timestamp → p.timestamp = q.timestamp

theorem mem_times {time : Int} :
    time ∈ times points ↔ ∃ point ∈ points, point.timestamp = time := by
  simp [times]

/-- A time is in one cell at most. -/
theorem cell_unique {time : Int} {i j : Nat} (hi : InCell expectedStart expectedStep i time)
    (hj : InCell expectedStart expectedStep j time) : i = j := by
  unfold InCell at hi hj
  rcases Nat.lt_trichotomy i j with hlt | heq | hlt
  · have hle : ((i : Int) + 1) * expectedStep ≤ j * expectedStep :=
      mul_le_mul_of_nonneg_right (by omega) (by linarith [hi.1, hi.2])
    linarith [hi.2, hj.1]
  · exact heq
  · have hle : ((j : Int) + 1) * expectedStep ≤ i * expectedStep :=
      mul_le_mul_of_nonneg_right (by omega) (by linarith [hj.1, hj.2])
    linarith [hj.2, hi.1]

/-- There are no more times than occupied cells exactly if each has a cell of its
own. -/
theorem card_times_le_iff :
    (times points).card ≤ (occupiedCells points expectedStart expectedStep n).card ↔
      OnePerCell points expectedStart expectedStep n := by
  -- a time for each occupied cell
  have htime : ∀ i ∈ occupiedCells points expectedStart expectedStep n,
      ∃ time ∈ times points, InCell expectedStart expectedStep i time := by
    intro i hi
    obtain ⟨point, hpoint, hin⟩ := (Finset.mem_filter.mp hi).2
    exact ⟨point.timestamp, mem_times.mpr ⟨point, hpoint, rfl⟩, hin⟩
  choose! time hmem hin using htime
  have hinj : Set.InjOn time (occupiedCells points expectedStart expectedStep n) :=
    fun i hi j hj heq => cell_unique (hin i hi) (heq ▸ hin j hj)
  constructor
  · intro hle
    -- then these are all times
    have hall : (occupiedCells points expectedStart expectedStep n).image time = times points :=
      Finset.eq_of_subset_of_card_le (Finset.image_subset_iff.mpr hmem)
        (by rwa [Finset.card_image_of_injOn hinj])
    have hcell : ∀ point ∈ points, ∃ i ∈ occupiedCells points expectedStart expectedStep n,
        time i = point.timestamp := fun point hpoint => by
      rw [← Finset.mem_image, hall]
      exact mem_times.mpr ⟨point, hpoint, rfl⟩
    constructor
    · intro point hpoint
      obtain ⟨i, hi, heq⟩ := hcell point hpoint
      exact ⟨i, Finset.mem_range.mp (Finset.mem_filter.mp hi).1, heq ▸ hin i hi⟩
    · intro p hp q hq i hpi hqi
      obtain ⟨a, ha, hpa⟩ := hcell p hp
      obtain ⟨b, hb, hqb⟩ := hcell q hq
      have hai : a = i := cell_unique (hpa ▸ hin a ha) hpi
      have hbi : b = i := cell_unique (hqb ▸ hin b hb) hqi
      rw [← hpa, ← hqb, hai, hbi]
  · rintro ⟨hwindow, hapart⟩
    have hcell : ∀ time ∈ times points, ∃ i < n, InCell expectedStart expectedStep i time := by
      intro time htime
      obtain ⟨point, hpoint, rfl⟩ := mem_times.mp htime
      exact hwindow point hpoint
    choose! cell hlt hcell using hcell
    refine Finset.card_le_card_of_injOn cell ?_ ?_
    · intro time htime
      obtain ⟨point, hpoint, rfl⟩ := mem_times.mp htime
      exact Finset.mem_filter.mpr ⟨Finset.mem_range.mpr (hlt _ htime), point, hpoint,
        hcell _ htime⟩
    · intro time htime time' htime' heq
      obtain ⟨p, hp, rfl⟩ := mem_times.mp htime
      obtain ⟨q, hq, rfl⟩ := mem_times.mp htime'
      exact hapart p hp q hq _ (hcell _ htime) (heq ▸ hcell _ htime')

/-- **Main result.** The empty cells are at most the values that are reported missing
exactly if no cell is empty, or the times are no more than the occupied cells and what
the float adds to `n`. Up to 2^53 it adds nothing, and this says that every point is in
the window and different times are in different cells. -/
theorem missing_not_masked (float : ℚ → ℚ) (hfloat : ∀ n : Nat, n ≤ 2 ^ 53 → float n = n)
    (points : List Point) (expectedStart expectedStep now staleAfter : Int)
    (minimum maximum : Option ℚ) (n : Nat) (hn : 1 ≤ n) (hstep : 0 < expectedStep) :
    let expected := max 1 ((float n).num.tdiv (float n).den)
    ∃ result, assess float points expectedStart (expectedStart + n * expectedStep) expectedStep
        now staleAfter minimum maximum = .ok result ∧
      ((emptyCells points expectedStart expectedStep n).card ≤ result.missing ↔
        emptyCells points expectedStart expectedStep n = ∅ ∨
          ((times points).card : Int) ≤
            (occupiedCells points expectedStart expectedStep n).card + (expected - n)) ∧
      (n ≤ 2 ^ 53 →
        (((times points).card : Int) ≤
            (occupiedCells points expectedStart expectedStep n).card + (expected - n) ↔
          OnePerCell points expectedStart expectedStep n)) := by
  intro expected
  refine ⟨_, if_neg hstep.ne', ?_, fun hsmall => ?_⟩
  · have hquotient : ((expectedStart + n * expectedStep - expectedStart : Int) : ℚ) /
        expectedStep = (n : ℚ) := by
      have hne : (expectedStep : ℚ) ≠ 0 := Int.cast_ne_zero.mpr hstep.ne'
      rw [add_sub_cancel_left, Int.cast_mul, mul_div_cancel_right₀ _ hne, Int.cast_natCast]
    have hcells := card_cells points expectedStart expectedStep n
    have hmissing : ∀ missing : Int, missing = max 0 (expected - (times points).card) →
        ((emptyCells points expectedStart expectedStep n).card ≤ missing ↔
          emptyCells points expectedStart expectedStep n = ∅ ∨
            ((times points).card : Int) ≤
              (occupiedCells points expectedStart expectedStep n).card + (expected - n)) := by
      rintro missing rfl
      rw [← Finset.card_eq_zero]
      omega
    refine hmissing _ ?_
    simp only [hquotient]
    rfl
  · have hexpected : expected = n := by
      have hn' : (1 : Int) ≤ n := by exact_mod_cast hn
      simp only [expected, hfloat n hsmall, Rat.num_natCast, Rat.den_natCast, Nat.cast_one,
        Int.tdiv_one]
      exact max_eq_right hn'
    rw [hexpected, sub_self, add_zero, Nat.cast_le]
    exact card_times_le_iff

/-- Two points in the three cells of a window, and one empty cell. -/
theorem missing_not_masked_three : ∃ result,
    assess id [⟨0, 1⟩, ⟨25, 4⟩] 0 (0 + (3 : Nat) * 10) 10 0 0 none none = .ok result ∧
      (emptyCells [⟨0, 1⟩, ⟨25, 4⟩] 0 10 3).card = 1 ∧
      (emptyCells [⟨0, 1⟩, ⟨25, 4⟩] 0 10 3).card ≤ result.missing := by
  obtain ⟨result, hresult, hiff, _⟩ := missing_not_masked id (fun _ _ => rfl)
    [⟨0, 1⟩, ⟨25, 4⟩] 0 10 0 0 none none 3 (by decide) (by decide)
  exact ⟨result, hresult, by decide +kernel, hiff.mpr (.inr (by decide +kernel))⟩

/-- Two points outside a window hide that both of its cells are empty. -/
theorem outside_points_mask :
    (emptyCells [⟨5, 1⟩, ⟨6, 1⟩] 0 1 2).card = 2 ∧
    QualityAssessment.missing <$> assess id [⟨5, 1⟩, ⟨6, 1⟩] 0 2 1 0 0 none none = .ok 0 := by
  decide +kernel

end ComputeWeaver.DataQuality
