/-
Workloads.PostgresQuotaTheorems — the committed ledgers after any
interleaving of quota transactions.

The two totals that must agree are in two tables, and `reserve` reads the
reservation without a lock. What keeps them together is the lock of the ledger
row: every commit that changes a tenant's reservations has it, so for its
holder the load of the tenant stands still (`Frame.ledgers`).

All this is arithmetic of numbers. `Infinity` is a demand that both Python and
Postgres accept, and `Infinity - Infinity` is NaN there.
-/
import ComputeWeaver.Lib.Calls
import ComputeWeaver.Workloads.PostgresQuota
import ComputeWeaver.Workloads.QuotaTheorems

namespace ComputeWeaver.Workloads

open Lib Persistence Reservations Numeric Function Demand QuotaTx

/-! ## Rows and loads -/

def Demand.load (demand : Demand) : Load := (demand.gpus, demand.gpuHours.toRat, 1)

/-- The demand has no negative amounts and no special values. -/
def Demand.Proper (demand : Demand) : Prop := (demand.reservation false).Proper

def LedgerRow.Accounts (row : LedgerRow) (load : Load) : Prop :=
  row.used = load.usage ∧ row.quota.Covers load

variable {quota : Quota} {row : LedgerRow} {reply : QuotaReply}

theorem Quota.Covers.not_nan {load : Load} (h : quota.Covers load) : quota.maxGpuHours ≠ .nan := by
  intro hnan
  have hhours := h.2.1
  rw [hnan] at hhours
  cases hhours

namespace LedgerRow

variable {row : LedgerRow} {load : Load} {demand : Demand}

theorem Accounts.plus (h : row.Accounts load) (hproper : demand.Proper)
    (hfits : row.fits demand = true) : (row.plus demand).Accounts (load + demand.load) := by
  obtain ⟨hused, hcovers⟩ := h
  obtain ⟨-, q, hq, -⟩ := hproper
  have hq : demand.gpuHours = .finite q := hq
  simp only [fits, hused, Load.usage, hq, add, Bool.and_eq_true, decide_eq_true_eq] at hfits
  obtain ⟨⟨hgpus, hhours⟩, hjobs⟩ := hfits
  rw [le_finite hcovers.not_nan] at hhours
  have hload : demand.load = (demand.gpus, q, 1) := by
    rw [Demand.load, hq]
    rfl
  rw [hload]
  refine ⟨?_, hgpus, hhours, hjobs⟩
  simp only [LedgerRow.plus, hused, Load.usage, hq, add]
  rfl

/-- Part of the load is taken off it: nothing is cut off at zero. -/
theorem Accounts.minus_used (h : row.Accounts load) (hproper : demand.Proper)
    (hle : demand.load ≤ load) :
    (row.minus demand).used = ⟨row.used.gpus - demand.gpus,
      sub row.used.hours demand.gpuHours, row.used.jobs - 1⟩ := by
  obtain ⟨-, q, hq, -⟩ := hproper
  have hq : demand.gpuHours = .finite q := hq
  rw [Demand.load, hq] at hle
  obtain ⟨hgpus, hhours, hjobs⟩ := hle
  have hsub : sub (.finite load.2.1) (.finite q) = .finite (load.2.1 - q) := by
    rw [sub_eq_add_neg]
    rfl
  have hgreatest : greatest (.finite 0) (.finite (load.2.1 - q)) =
      .finite (load.2.1 - q) := if_pos (decide_eq_true (sub_nonneg.mpr hhours))
  have hgpus' : max 0 (load.1 - demand.gpus) = load.1 - demand.gpus :=
    max_eq_right (sub_nonneg.mpr hgpus)
  have hjobs' : max 0 (load.2.2 - 1) = load.2.2 - 1 := max_eq_right (sub_nonneg.mpr hjobs)
  simp only [LedgerRow.minus, h.1, Load.usage, hq, hsub, hgreatest, hgpus', hjobs']

theorem Accounts.minus (h : row.Accounts load) (hproper : demand.Proper)
    (hle : demand.load ≤ load) : (row.minus demand).Accounts (load - demand.load) := by
  have hnonneg : 0 ≤ demand.load := hproper.load_nonneg
  refine ⟨?_, h.2.mono (sub_le_self _ hnonneg)⟩
  rw [h.minus_used hproper hle, h.1]
  obtain ⟨-, q, hq, -⟩ := hproper
  have hq : demand.gpuHours = .finite q := hq
  simp only [Load.usage, Demand.load, hq, PyDecimal.toRat, sub_eq_add_neg]
  rfl

end LedgerRow

theorem Quota.check_ok (h : quota.check = .ok ()) : quota.Covers 0 := by
  unfold Quota.check at h
  by_cases hmin : min quota.maxGpus quota.maxConcurrentJobs < 0
  · simp [hmin, bind, Except.bind, throw, throwThe, MonadExceptOf.throw] at h
  simp only [hmin, if_false] at h
  obtain ⟨exceeds, hexceeds, h⟩ := bind_eq_ok.mp h
  cases exceeds with
  | true => cases h
  | false =>
    rw [not_lt, le_min_iff] at hmin
    exact ⟨hmin.1, PyDecimal.lt_eq_false.mp hexceeds, hmin.2⟩

theorem LedgerRow.Accounts.configure {load : Load} (h : row.Accounts load)
    (hcheck : quota.check = .ok ()) (hbelow : row.below quota = true) :
    (LedgerRow.mk quota row.used).Accounts load := by
  simp only [LedgerRow.below, h.1, Load.usage, Bool.and_eq_true, decide_eq_true_eq] at hbelow
  obtain ⟨⟨hgpus, hhours⟩, hjobs⟩ := hbelow
  rw [le_finite (Quota.check_ok hcheck).not_nan] at hhours
  exact ⟨h.1, hgpus, hhours, hjobs⟩

/-- A demand that passes the check is proper, unless it is for `Infinity`
hours. -/
theorem Demand.proper_of_check {demand : Demand} (h : demand.check = .ok ())
    (hfinite : demand.gpuHours ≠ .infinity false) : demand.Proper := by
  cases hhours : demand.gpuHours with
  | finite q =>
    obtain ⟨hgpus, hq⟩ := check_ok hhours h
    exact ⟨hgpus, q, hhours, hq⟩
  | infinity negative =>
    cases negative with
    | false => exact absurd hhours hfinite
    | true =>
      unfold check at h
      rw [hhours] at h
      split at h <;> cases h
  | nan =>
    unfold check at h
    rw [hhours] at h
    split at h <;> cases h

/-! ## What a transaction relies on -/

/-- It has added the demand to the ledger, in its own version of the row. -/
def Adds (x : QuotaTx) (i : Nat) (demand : Demand) (row : LedgerRow) : Prop :=
  demand.Proper ∧ x.ledgerLocks demand.tenantId = some i ∧
    row.Accounts (x.tables.reservations.load demand.tenantId + demand.load)

/-- It has marked the reservation as released, in its own version of the row. -/
def Marks (x : QuotaTx) (i : Nat) (demand : Demand) : Prop :=
  x.reservationLocks demand.key = some i ∧
    x.tables.reservations.get? demand.key = some (demand.reservation false)

def Relies (x : QuotaTx) (i : Nat) : QuotaCall → QuotaPhase → Prop
  | .configure _ quota, .begun => quota.check = .ok ()
  | .configure tenantId _, .configured row =>
      x.ledgerLocks tenantId = some i ∧ row.Accounts (x.tables.reservations.load tenantId)
  | .reserve demand, .begun => demand.Proper
  | .reserve demand, .unmatched => demand.Proper
  | .reserve demand, .adding => demand.Proper
  | .reserve demand, .added row => Adds x i demand row
  | .reserve demand, .inserted row => Adds x i demand row ∧
      x.reservationLocks demand.key = some i ∧ x.tables.reservations.get? demand.key = none
  | .release demand, .marked => Marks x i demand
  | .release demand, .subtracting seen => Marks x i demand ∧ seen = true
  | .release demand, .subtracted row => Marks x i demand ∧
      x.ledgerLocks demand.tenantId = some i ∧
      row.Accounts (x.tables.reservations.load demand.tenantId - demand.load)
  | _, _ => True

/-- What a transaction has locked is as it was. -/
structure Frame (j : Nat) (x x' : QuotaTx) : Prop where
  ledgers : ∀ tenantId, x.ledgerLocks tenantId = some j → x'.ledgerLocks tenantId = some j ∧
    x'.tables.reservations.load tenantId = x.tables.reservations.load tenantId
  reservations : ∀ key, x.reservationLocks key = some j → x'.reservationLocks key = some j ∧
    x'.tables.reservations.get? key = x.tables.reservations.get? key

section

variable {x x' : QuotaTx} {j : Nat} {demand : Demand} {row : LedgerRow}

theorem Adds.frame (hf : Frame j x x') (h : Adds x j demand row) : Adds x' j demand row := by
  obtain ⟨hproper, hlock, hrow⟩ := h
  obtain ⟨hlock', hload⟩ := hf.ledgers _ hlock
  exact ⟨hproper, hlock', hload ▸ hrow⟩

theorem Marks.frame (hf : Frame j x x') (h : Marks x j demand) : Marks x' j demand := by
  obtain ⟨hlock, hget⟩ := h
  obtain ⟨hlock', heq⟩ := hf.reservations _ hlock
  exact ⟨hlock', heq.trans hget⟩

theorem Relies.frame {call : QuotaCall} {phase : QuotaPhase} (hf : Frame j x x')
    (h : Relies x j call phase) : Relies x' j call phase := by
  cases call with
  | configure tenantId quota =>
    cases phase with
    | configured row =>
      obtain ⟨hlock, hrow⟩ := h
      obtain ⟨hlock', hload⟩ := hf.ledgers _ hlock
      exact ⟨hlock', hload ▸ hrow⟩
    | _ => exact h
  | reserve demand =>
    cases phase with
    | added row => exact Adds.frame hf h
    | inserted row =>
      obtain ⟨hadds, hlock, hget⟩ := h
      obtain ⟨hlock', heq⟩ := hf.reservations _ hlock
      exact ⟨hadds.frame hf, hlock', heq.trans hget⟩
    | _ => exact h
  | release demand =>
    cases phase with
    | marked => exact Marks.frame hf h
    | subtracting seen => exact ⟨h.1.frame hf, h.2⟩
    | subtracted row =>
      obtain ⟨hmarks, hlock, hrow⟩ := h
      obtain ⟨hlock', hload⟩ := hf.ledgers _ hlock
      exact ⟨hmarks.frame hf, hlock', hload ▸ hrow⟩
    | _ => exact h

end

/-! ## The invariant -/

structure Balanced (calls : Nat → QuotaCall) (x : QuotaTx) : Prop where
  accounts : ∀ tenantId row, x.tables.ledgers.get? tenantId = some row →
    row.Accounts (x.tables.reservations.load tenantId)
  proper : x.tables.reservations.AllProper
  owned : ∀ tenantId reservationKey reservation,
    x.tables.reservations.get? (tenantId, reservationKey) = some reservation →
    ∃ row, x.tables.ledgers.get? tenantId = some row
  relies : ∀ i, Relies x i (calls i) (x.phase i)

theorem balanced_init (calls : Nat → QuotaCall) : Balanced calls .init where
  accounts _ _ h := by cases h
  proper _ _ h := by cases h
  owned _ _ _ h := by cases h
  relies i := by
    cases hcall : calls i <;> trivial

/-- A step of call `i` that commits nothing. -/
structure QuietStep (i : Nat) (x x' : QuotaTx) : Prop where
  tables : x'.tables = x.tables
  others : ∀ j, j ≠ i → x'.phase j = x.phase j
  ledgerLocks : Locks.KeepsOthers i x.ledgerLocks x'.ledgerLocks
  reservationLocks : Locks.KeepsOthers i x.reservationLocks x'.reservationLocks

namespace Balanced

variable {calls : Nat → QuotaCall} {x x' : QuotaTx} {i : Nat}

variable {phase : QuotaPhase} {next : QuotaTx} {tenantId : String}

theorem quiet (h : Balanced calls x) (hq : QuietStep i x x') (hphase : x'.phase i = phase)
    (hrelies : Relies x' i (calls i) phase) : Balanced calls x' where
  accounts := by
    rw [hq.tables]
    exact h.accounts
  proper := by
    rw [hq.tables]
    exact h.proper
  owned := by
    rw [hq.tables]
    exact h.owned
  relies j := by
    by_cases hj : j = i
    · rw [hj, hphase]
      exact hrelies
    have hframe : Frame j x x' := by
      constructor
      · exact fun tenantId hlock => ⟨hq.ledgerLocks tenantId j hj hlock, by rw [hq.tables]⟩
      · exact fun key hlock => ⟨hq.reservationLocks key j hj hlock, by rw [hq.tables]⟩
    rw [hq.others j hj]
    exact (h.relies j).frame hframe

theorem goto (h : Balanced calls x) (hrelies : Relies x i (calls i) phase) :
    Balanced calls (x.goto i phase) := by
  refine h.quiet ⟨rfl, others_update, .refl i _, .refl i _⟩ (update_self ..)
    (hrelies.frame ⟨?_, ?_⟩)
  · exact fun _ hlock => ⟨hlock, rfl⟩
  · exact fun _ hlock => ⟨hlock, rfl⟩

theorem relies_ended (x : QuotaTx) (i : Nat) (call : QuotaCall)
    (reply : Except PyError QuotaReply) : Relies x i call (.ended reply) := by
  cases call <;> trivial

section

variable (h : Balanced calls x) {key : String × String}
include h

theorem finish (i : Nat) (reply : Except PyError QuotaReply) :
    Balanced calls (x.finish i reply) := by
  refine h.quiet ⟨rfl, others_update, Locks.keepsOthers_release _ i, Locks.keepsOthers_release _ i⟩
    (update_self ..) (relies_ended _ i _ _)

theorem checked {check : Except PyError Unit} (hnext : check = .ok () → Balanced calls next) :
    Balanced calls (x.checked i check next) := by
  unfold QuotaTx.checked
  cases check with
  | error e => exact h.finish i _
  | ok _ => exact hnext rfl

theorem onLedger (hnext : x.ledgerLocks.available tenantId i → Balanced calls next) :
    Balanced calls (x.onLedger i tenantId next) := by
  unfold QuotaTx.onLedger
  split
  · rename_i hfree
    exact hnext hfree
  · exact h

theorem onReservation
    (hnext : x.reservationLocks.available key i → Balanced calls next) :
    Balanced calls (x.onReservation i key next) := by
  unfold QuotaTx.onReservation
  split
  · rename_i hfree
    exact hnext hfree
  · exact h

theorem lockLedger (hfree : x.ledgerLocks.available tenantId i)
    (hrelies : Relies (x.lockLedger i tenantId phase) i (calls i) phase) :
    Balanced calls (x.lockLedger i tenantId phase) :=
  h.quiet ⟨rfl, others_update, Locks.keepsOthers_acquire hfree, .refl i _⟩
    (update_self ..) hrelies

theorem lockReservation (hfree : x.reservationLocks.available key i)
    (hrelies : Relies (x.lockReservation i key phase) i (calls i) phase) :
    Balanced calls (x.lockReservation i key phase) :=
  h.quiet ⟨rfl, others_update, .refl i _, Locks.keepsOthers_acquire hfree⟩
    (update_self ..) hrelies

/-- A commit that holds the lock of its ledger, and of the reservation it
writes. -/
theorem commit {reservations : Reservations}
    (hlock : x.ledgerLocks tenantId = some i) (hrow : row.Accounts (reservations.load tenantId))
    (hloads : ∀ other, tenantId ≠ other →
      reservations.load other = x.tables.reservations.load other)
    (hrows : ∀ key, x.reservationLocks key ≠ some i →
      reservations.get? key = x.tables.reservations.get? key) (hproper : reservations.AllProper)
    (howned : ∀ other reservationKey reservation, tenantId ≠ other →
      reservations.get? (other, reservationKey) = some reservation →
      x.tables.reservations.get? (other, reservationKey) = some reservation) :
    Balanced calls (x.commit i ⟨x.tables.ledgers.set tenantId row, reservations⟩ reply) where
  accounts other row' hget := by
    change (x.tables.ledgers.set tenantId row).get? other = some row' at hget
    change row'.Accounts (reservations.load other)
    rw [Dict.get?_set] at hget
    split at hget
    · rename_i heq
      cases hget
      rwa [← heq]
    · rename_i hne
      rw [hloads other hne]
      exact h.accounts other row' hget
  proper := hproper
  owned other reservationKey reservation hget := by
    change ∃ row', (x.tables.ledgers.set tenantId row).get? other = some row'
    rw [Dict.get?_set]
    split
    · exact ⟨row, rfl⟩
    · rename_i hne
      exact h.owned other reservationKey reservation (howned _ _ _ hne hget)
  relies j := by
    rcases eq_or_ne j i with rfl | hj
    · rw [show (x.commit j _ reply).phase j = .ended (.ok reply) from update_self ..]
      exact relies_ended _ j _ _
    rw [show (x.commit i _ reply).phase j = x.phase j from update_of_ne hj _ _]
    refine (h.relies j).frame ⟨?_, ?_⟩
    · intro other hheld
      exact ⟨Locks.keepsOthers_release _ i other j hj hheld,
        hloads other (Locks.ne_of_held hlock hheld hj)⟩
    · intro key hheld
      refine ⟨Locks.keepsOthers_release _ i key j hj hheld, hrows key ?_⟩
      rw [hheld]
      exact fun heq => hj (Option.some.inj heq)

end

end Balanced

/-! ## Steps -/

section

variable {calls : Nat → QuotaCall} {x : QuotaTx} {i : Nat}
  {tenantId : String}

theorem Balanced.load_eq_zero (h : Balanced calls x)
    (hnone : x.tables.ledgers.get? tenantId = none) : x.tables.reservations.load tenantId = 0 := by
  refine Dict.tally_eq_zero fun key reservation hget => ?_
  unfold share
  split
  · rename_i heq
    obtain ⟨row, hrow⟩ := h.owned key.1 key.2 reservation hget
    rw [heq, hnone] at hrow
    cases hrow
  · rfl

theorem balanced_configure (h : Balanced calls x) {quota : Quota}
    (hcall : calls i = .configure tenantId quota) :
    Balanced calls (x.advanceConfigure i tenantId quota) := by
  have hrelies := h.relies i
  rw [hcall] at hrelies
  unfold advanceConfigure
  cases hphase : x.phase i with
  | idle =>
    refine h.checked fun hcheck => h.goto ?_
    obtain ⟨⟨⟩, hcheck, -⟩ := bind_eq_ok.mp hcheck
    rw [hcall]
    exact hcheck
  | begun =>
    rw [hphase] at hrelies
    refine h.checked fun _ => h.onLedger fun hfree => ?_
    cases hget : x.tables.ledgers.get? tenantId with
    | none =>
      refine h.lockLedger hfree ?_
      rw [hcall]
      refine ⟨Locks.acquire_self _ _ _, ?_⟩
      change LedgerRow.Accounts ⟨quota, .zero⟩ (x.tables.reservations.load tenantId)
      rw [h.load_eq_zero hget]
      exact ⟨rfl, Quota.check_ok hrelies⟩
    | some row =>
      simp only []
      split
      · rename_i hbelow
        refine h.lockLedger hfree ?_
        rw [hcall]
        exact ⟨Locks.acquire_self _ _ _, (h.accounts _ _ hget).configure hrelies hbelow⟩
      · exact h.finish i _
  | configured row =>
    rw [hphase] at hrelies
    exact h.commit hrelies.1 hrelies.2 (fun _ _ => rfl) (fun _ _ => rfl) h.proper
      fun _ _ _ _ hget => hget
  | _ => exact h

variable {demand : Demand}

/-- The commits of `reserve` and `release` write one reservation, whose lock
they have. -/
theorem Balanced.commitDemand (h : Balanced calls x) {released : Bool}
    (hproper : demand.Proper)
    (hledger : x.ledgerLocks demand.tenantId = some i)
    (hreservation : x.reservationLocks demand.key = some i)
    (hrow : row.Accounts (load
      (x.tables.reservations.set demand.key (demand.reservation released)) demand.tenantId)) :
    Balanced calls (x.commit i ⟨x.tables.ledgers.set demand.tenantId row,
      x.tables.reservations.set demand.key (demand.reservation released)⟩ reply) := by
  have hproper' : (demand.reservation released).Proper := hproper
  refine h.commit hledger hrow ?_ ?_ (h.proper.set hproper' _) ?_
  · exact fun other hne => load_set_other _ hne
  · intro key hkey
    refine Dict.get?_set_ne _ _ ?_
    rintro rfl
    exact hkey hreservation
  · intro other reservationKey reservation hne hget
    rwa [Dict.get?_set_ne] at hget
    intro heq
    exact hne (congrArg Prod.fst heq)

theorem Demand.Proper.reservation_eq (h : demand.Proper) :
    ∃ q, demand.load = (demand.gpus, q, 1) ∧
      ∀ released, demand.reservation released = ⟨demand.gpus, .finite q, released⟩ := by
  obtain ⟨-, q, hq, -⟩ := h
  have hq : demand.gpuHours = .finite q := hq
  refine ⟨q, ?_, fun released => ?_⟩
  · rw [load, hq]
    rfl
  · rw [reservation, hq]

theorem balanced_reserve (h : Balanced calls x) (hcall : calls i = .reserve demand)
    (hfinite : demand.gpuHours ≠ .infinity false) : Balanced calls (x.advanceReserve i demand) := by
  have hrelies := h.relies i
  rw [hcall] at hrelies
  unfold advanceReserve
  cases hphase : x.phase i with
  | idle =>
    refine h.checked fun hcheck => h.goto ?_
    obtain ⟨⟨⟩, hcheck, -⟩ := bind_eq_ok.mp hcheck
    rw [hcall]
    exact proper_of_check hcheck hfinite
  | begun =>
    rw [hphase] at hrelies
    refine h.checked fun _ => ?_
    cases hget : x.tables.reservations.get? demand.key with
    | some prior =>
      simp only []
      split <;> exact h.finish i _
    | none =>
      refine h.goto ?_
      rw [hcall]
      exact hrelies
  | unmatched =>
    rw [hphase] at hrelies
    simp only []
    split
    · refine h.goto ?_
      rw [hcall]
      exact hrelies
    · exact h.finish i _
  | adding =>
    rw [hphase] at hrelies
    refine h.onLedger fun hfree => ?_
    cases hget : x.tables.ledgers.get? demand.tenantId with
    | none => exact h.finish i _
    | some row =>
      simp only []
      split
      · rename_i hfits
        refine h.lockLedger hfree ?_
        rw [hcall]
        exact ⟨hrelies, Locks.acquire_self _ _ _, (h.accounts _ _ hget).plus hrelies hfits⟩
      · exact h.finish i _
  | added row =>
    rw [hphase] at hrelies
    refine h.onReservation fun hfree => ?_
    split
    · exact h.finish i _
    rename_i hnone
    refine h.lockReservation hfree ?_
    rw [hcall]
    exact ⟨hrelies, Locks.acquire_self _ _ _, Option.not_isSome_iff_eq_none.mp hnone⟩
  | inserted row =>
    rw [hphase] at hrelies
    obtain ⟨⟨hproper, hledger, hrow⟩, hreservation, hnone⟩ := hrelies
    refine h.commitDemand hproper hledger hreservation ?_
    obtain ⟨q, hload, hreservation'⟩ := hproper.reservation_eq
    rw [hload] at hrow
    rw [hreservation', key, load_grant hnone]
    exact hrow
  | _ => exact h

theorem Balanced.marked_le (h : Balanced calls x) (hmarks : Marks x i demand) :
    demand.Proper ∧ demand.load ≤ x.tables.reservations.load demand.tenantId := by
  have hproper : demand.Proper := h.proper _ _ hmarks.2
  obtain ⟨q, hload, hreservation⟩ := hproper.reservation_eq
  refine ⟨hproper, ?_⟩
  rw [hload]
  exact h.proper.le_load ((hreservation false) ▸ hmarks.2)

theorem balanced_release (h : Balanced calls x) (hcall : calls i = .release demand) :
    Balanced calls (x.advanceRelease i demand) := by
  have hrelies := h.relies i
  rw [hcall] at hrelies
  unfold advanceRelease
  cases hphase : x.phase i with
  | idle =>
    refine h.checked fun _ => h.goto ?_
    rw [hcall]
    trivial
  | begun =>
    refine h.checked fun _ => ?_
    split
    · refine h.goto ?_
      rw [hcall]
      trivial
    · exact h.finish i _
  | matched =>
    refine h.onReservation fun hfree => ?_
    split
    · rename_i hget
      refine h.lockReservation hfree ?_
      rw [hcall]
      exact ⟨Locks.acquire_self _ _ _, hget⟩
    · exact h.finish i _
  | marked =>
    rw [hphase] at hrelies
    refine h.goto ?_
    rw [hcall]
    -- the foreign key: where there is a reservation there is a ledger
    obtain ⟨row, hrow⟩ := h.owned _ _ _ hrelies.2
    exact ⟨hrelies, by rw [hrow]; rfl⟩
  | subtracting seen =>
    rw [hphase] at hrelies
    obtain ⟨hmarks, rfl⟩ := hrelies
    refine h.onLedger fun hfree => ?_
    cases hget : x.tables.ledgers.get? demand.tenantId with
    | none => exact h
    | some row =>
      refine h.lockLedger hfree ?_
      rw [hcall]
      obtain ⟨hproper, hle⟩ := h.marked_le hmarks
      exact ⟨hmarks, Locks.acquire_self _ _ _, (h.accounts _ _ hget).minus hproper hle⟩
  | subtracted row =>
    rw [hphase] at hrelies
    obtain ⟨hmarks, hledger, hrow⟩ := hrelies
    have hproper : demand.Proper := h.proper _ _ hmarks.2
    refine h.commitDemand hproper hledger hmarks.1 ?_
    obtain ⟨q, hload, hreservation⟩ := hproper.reservation_eq
    rw [hload] at hrow
    rw [hreservation, key, load_release ((hreservation false) ▸ hmarks.2)]
    exact hrow
  | _ => exact h

theorem balanced_abort (h : Balanced calls x) (i : Nat) (error : PyError) :
    Balanced calls (x.abort i error) := by
  unfold abort
  split
  · exact h
  · exact h
  · exact h.finish i _

/-- **One step.** No move unbalances the ledgers, as long as no reserve is for
`Infinity` hours. -/
theorem balanced_step
    (hfinite : ∀ i demand, calls i = .reserve demand → demand.gpuHours ≠ .infinity false)
    (x : QuotaTx) (move : QuotaMove) (h : Balanced calls x) :
    Balanced calls (x.step calls move) := by
  cases move with
  | advance i =>
    change Balanced calls (x.advance calls i)
    unfold advance
    cases hcall : calls i with
    | configure tenantId quota => exact balanced_configure h hcall
    | reserve demand => exact balanced_reserve h hcall (hfinite i demand hcall)
    | release demand => exact balanced_release h hcall
  | abort i error => exact balanced_abort h i error

end

/-! ## Runs -/

/-- **Main result.** After any moves of any number of calls, the committed
ledger of a tenant has the load of its unreleased reservations and its quota
covers it, a tenant without a ledger has no unreleased reservation, and a
release that is about to subtract its demand subtracts all of it. -/
theorem committed_ledgers_balanced (calls : Nat → QuotaCall)
    (hfinite : ∀ i demand, calls i = .reserve demand → demand.gpuHours ≠ .infinity false)
    (moves : List QuotaMove) (tenantId : String) :
    (∀ row, (QuotaTx.after calls moves).tables.ledgers.get? tenantId = some row →
        row.used = ((QuotaTx.after calls moves).tables.reservations.load tenantId).usage ∧
        row.quota.Covers ((QuotaTx.after calls moves).tables.reservations.load tenantId)) ∧
      ((QuotaTx.after calls moves).tables.ledgers.get? tenantId = none →
        (QuotaTx.after calls moves).tables.reservations.load tenantId = 0) ∧
      ∀ i demand row, calls i = .release demand → demand.tenantId = tenantId →
        (QuotaTx.after calls moves).phase i = .subtracting true →
        (QuotaTx.after calls moves).tables.ledgers.get? tenantId = some row →
        (row.minus demand).used = ⟨row.used.gpus - demand.gpus,
          Numeric.sub row.used.hours demand.gpuHours, row.used.jobs - 1⟩ := by
  have hbalanced : Balanced calls (after calls moves) :=
    run_invariant (balanced_step hfinite) moves .init (balanced_init calls)
  refine ⟨hbalanced.accounts tenantId, hbalanced.load_eq_zero, ?_⟩
  rintro i demand row hcall rfl hphase hget
  have hrelies := hbalanced.relies i
  rw [hcall, hphase] at hrelies
  obtain ⟨hproper, hle⟩ := hbalanced.marked_le hrelies.1
  exact (hbalanced.accounts _ _ hget).minus_used hproper hle

/-- A call under one key, raced by another one, and a release. -/
def sampleTransactions (gpuHours : PyDecimal) : Nat → QuotaCall
  | 0 => .configure "tenant-one" ⟨4, .infinity false, 2⟩
  | 1 => .reserve ⟨"tenant-one", 2, gpuHours, some "job-one"⟩
  | 2 => .reserve ⟨"tenant-one", 2, gpuHours, some "job-one"⟩
  | _ => .release ⟨"tenant-one", 2, gpuHours, some "job-one"⟩

def steps (count call : Nat) : List QuotaMove := List.replicate count (.advance call)

/-- Both reserves see a ledger with room before the first one commits; the
release comes to the point where it subtracts. -/
def sampleMoves : List QuotaMove :=
  steps 3 0 ++ steps 3 1 ++ steps 3 2 ++ steps 3 1 ++ steps 3 2 ++ steps 4 3

theorem committed_ledgers_balanced_sample :
    (QuotaTx.after (sampleTransactions (.finite 4)) sampleMoves).phase 2 =
        .ended (.error (.databaseError "UniqueViolation")) ∧
      (⟨2, .finite 4, 1⟩ : Usage) = ((QuotaTx.after (sampleTransactions (.finite 4))
        sampleMoves).tables.reservations.load "tenant-one").usage ∧
      (LedgerRow.minus ⟨⟨4, .infinity false, 2⟩, ⟨2, .finite 4, 1⟩⟩
        ⟨"tenant-one", 2, .finite 4, some "job-one"⟩).used = ⟨0, .finite 0, 0⟩ := by
  have hfinite : ∀ i demand, sampleTransactions (.finite 4) i = .reserve demand →
      demand.gpuHours ≠ .infinity false := by
    intro i demand hcall
    match i with
    | 0 => cases hcall
    | 1 => cases hcall; decide
    | 2 => cases hcall; decide
    | _ + 3 => cases hcall
  have hrow : (after (sampleTransactions (.finite 4))
      sampleMoves).tables.ledgers.get? "tenant-one" =
        some ⟨⟨4, .infinity false, 2⟩, ⟨2, .finite 4, 1⟩⟩ := by decide +kernel
  have hphase : (after (sampleTransactions (.finite 4)) sampleMoves).phase 3 =
      .subtracting true := by decide +kernel
  obtain ⟨haccounts, -, hminus⟩ :=
    committed_ledgers_balanced (sampleTransactions (.finite 4)) hfinite sampleMoves "tenant-one"
  refine ⟨by decide +kernel, (haccounts _ hrow).1, ?_⟩
  rw [hminus 3 _ _ rfl rfl hphase hrow]
  decide +kernel

/-- One reserve of `Infinity` hours, and its release: both commit, no
reservation is left, and the ledger's hours are NaN, which is above every
maximum. -/
theorem infinite_hours_leave_nan :
    let x := QuotaTx.after (sampleTransactions (.infinity false))
      (steps 3 0 ++ steps 6 1 ++ steps 6 3)
    x.phase 1 = .ended (.ok (.reserved true)) ∧ x.phase 3 = .ended (.ok .done) ∧
      x.tables.reservations.load "tenant-one" = 0 ∧
      x.tables.ledgers.get? "tenant-one" = some ⟨⟨4, .infinity false, 2⟩, ⟨0, .nan, 0⟩⟩ ∧
      Numeric.le .nan (.infinity false) = false := by
  decide +kernel

end ComputeWeaver.Workloads
