/-
Workloads.Reservations — what a quota ledger is for.

A tenant's reservations are a table of demands, each released or not. The load
of a tenant is what its unreleased reservations add up to: GPUs, GPU hours and
their number. A ledger that keeps running totals beside such a table is right
when the totals are the load, and within the quota when the quota covers it.

Only the records `Quota` and `Usage` are translated from the source.
-/
import Mathlib.Algebra.Order.Monoid.Prod
import Mathlib.Algebra.Order.Ring.Int
import ComputeWeaver.Lib.Decimal
import ComputeWeaver.Lib.Tally

namespace ComputeWeaver.Workloads

open Lib

structure Quota where
  maxGpus : Int
  maxGpuHours : PyDecimal
  maxConcurrentJobs : Int
  deriving DecidableEq

/-- The triple that `usage` returns. -/
structure Usage where
  gpus : Int
  hours : PyDecimal
  jobs : Int
  deriving DecidableEq

def Usage.zero : Usage := ⟨0, .finite 0, 0⟩

/-! ## Loads -/

/-- GPUs, GPU hours and jobs, added component by component. -/
abbrev Load : Type := ℤ × ℚ × ℤ

/-- The running totals that are right for a load. -/
def Load.usage (load : Load) : Usage := ⟨load.1, .finite load.2.1, load.2.2⟩

@[simp] theorem Load.usage_zero : Load.usage 0 = .zero := rfl

theorem Load.usage_injective : Function.Injective Load.usage := by
  rintro ⟨gpus, hours, jobs⟩ ⟨gpus', hours', jobs'⟩ h
  simpa [Load.usage] using h

def Quota.Covers (quota : Quota) (load : Load) : Prop :=
  load.1 ≤ quota.maxGpus ∧ (PyDecimal.finite load.2.1).le quota.maxGpuHours = .ok true ∧
    load.2.2 ≤ quota.maxConcurrentJobs

theorem Quota.Covers.mono {quota : Quota} {load load' : Load} (h : quota.Covers load)
    (hle : load' ≤ load) : quota.Covers load' :=
  ⟨le_trans hle.1 h.1, PyDecimal.le_of_le hle.2.1 h.2.1, le_trans hle.2.2 h.2.2⟩

/-! ## Reservations -/

structure Reservation where
  gpus : Int
  gpuHours : PyDecimal
  released : Bool
  deriving DecidableEq

def Reservation.load (reservation : Reservation) : Load :=
  if reservation.released then 0 else (reservation.gpus, reservation.gpuHours.toRat, 1)

/-- A demand that was accepted: no negative amounts, no special values. -/
def Reservation.Proper (reservation : Reservation) : Prop :=
  0 ≤ reservation.gpus ∧ ∃ q : ℚ, reservation.gpuHours = .finite q ∧ 0 ≤ q

variable {reservation : Reservation}

theorem Reservation.Proper.load_nonneg (h : reservation.Proper) :
    0 ≤ reservation.load := by
  obtain ⟨hgpus, q, hq, hnonneg⟩ := h
  unfold Reservation.load
  split
  · exact le_refl _
  · rw [hq]
    exact ⟨hgpus, hnonneg, Int.one_nonneg⟩

/-- Reservations by tenant and key. -/
abbrev Reservations : Type := Dict (String × String) Reservation

namespace Reservations

def share (tenantId : String) (key : String × String) (reservation : Reservation) : Load :=
  if key.1 = tenantId then reservation.load else 0

def load (reservations : Reservations) (tenantId : String) : Load :=
  reservations.tally (share tenantId)

/-- Every accepted demand is proper. -/
def AllProper (reservations : Reservations) : Prop :=
  ∀ key reservation, reservations.get? key = some reservation → reservation.Proper

variable {reservations : Reservations} {tenantId reservationKey : String}

theorem load_set_other {tenantId' : String} (reservation : Reservation) (h : tenantId ≠ tenantId') :
    load (reservations.set (tenantId, reservationKey) reservation) tenantId' =
      load reservations tenantId' :=
  Dict.tally_set_of_zero (if_neg h) fun _ _ => if_neg h

theorem load_grant (h : reservations.get? (tenantId, reservationKey) = none) (gpus : Int) (q : ℚ) :
    load (reservations.set (tenantId, reservationKey) ⟨gpus, .finite q, false⟩) tenantId =
      load reservations tenantId + (gpus, q, 1) := by
  have hshare : share tenantId (tenantId, reservationKey) ⟨gpus, .finite q, false⟩ = (gpus, q, 1) :=
    if_pos rfl
  rw [load, Dict.tally_set_of_none h, hshare, load]

theorem load_release {gpus : Int} {q : ℚ}
    (h : reservations.get? (tenantId, reservationKey) = some ⟨gpus, .finite q, false⟩) :
    load (reservations.set (tenantId, reservationKey) ⟨gpus, .finite q, true⟩) tenantId =
      load reservations tenantId - (gpus, q, 1) := by
  have hold : share tenantId (tenantId, reservationKey) ⟨gpus, .finite q, false⟩ = (gpus, q, 1) :=
    if_pos rfl
  have hnew : share tenantId (tenantId, reservationKey) ⟨gpus, .finite q, true⟩ = 0 := if_pos rfl
  have hsum := Dict.tally_set_of_some (f := share tenantId)
    (v := ⟨gpus, .finite q, true⟩) h
  rw [hold, hnew, add_zero] at hsum
  exact eq_sub_of_add_eq hsum

theorem AllProper.share_nonneg (hproper : AllProper reservations) (tenantId : String)
    (key : String × String) (reservation : Reservation)
    (h : reservations.get? key = some reservation) : 0 ≤ share tenantId key reservation := by
  unfold share
  split
  · exact (hproper key reservation h).load_nonneg
  · exact le_refl _

theorem AllProper.le_load (hproper : AllProper reservations) {gpus : Int} {q : ℚ}
    (h : reservations.get? (tenantId, reservationKey) = some ⟨gpus, .finite q, false⟩) :
    (gpus, q, 1) ≤ load reservations tenantId := by
  have hshare : share tenantId (tenantId, reservationKey) ⟨gpus, .finite q, false⟩ = (gpus, q, 1) :=
    if_pos rfl
  have hle := Dict.le_tally (hproper.share_nonneg tenantId) h
  rwa [hshare] at hle

theorem AllProper.set (hproper : AllProper reservations)
    (h : reservation.Proper) (key : String × String) :
    AllProper (Dict.set reservations key reservation) := by
  intro key' reservation' hget
  rw [Dict.get?_set] at hget
  split at hget
  · cases hget
    exact h
  · exact hproper key' reservation' hget

end Reservations

end ComputeWeaver.Workloads
