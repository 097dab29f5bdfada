/-
Workloads.QuotaTheorems — the ledger counts what was granted and
not yet released, as long as nobody releases what is not outstanding.

`Booked` sets beside the ledger the record of what a caller was told: a
`reserve` that returned True under a key without an outstanding reservation
made one, a `release` that returned ended the one it names.

Because `release` does not look at the record, a second release of one key, or
one with another key or demand, takes off the usage what somebody else has
reserved, and because it leaves the key in the table a later `reserve` under it
returns True without counting anything. `InOrder` excludes these calls, and
sums of hours that the decimal context rounds.
-/
import ComputeWeaver.Workloads.Quota
import ComputeWeaver.Lib.Run

namespace ComputeWeaver.Workloads

open Lib Reservations Dict PyDecimal Option

/-! ## The record of grants -/

namespace Reservations

/-- A grant under a key with an outstanding reservation is that reservation
again. -/
def grant (granted : Reservations) (demand : Demand) : Reservations :=
  match demand.key? with
  | none => granted
  | some key =>
      if (granted.get? key).any (!·.released) then granted
      else Dict.set granted key ⟨demand.gpus, demand.gpuHours, false⟩

def release (granted : Reservations) (demand : Demand) : Reservations :=
  match demand.key? with
  | none => granted
  | some key =>
      if granted.get? key = some ⟨demand.gpus, demand.gpuHours, false⟩ then
        Dict.set granted key ⟨demand.gpus, demand.gpuHours, true⟩
      else granted

def record (granted : Reservations) : QuotaCall → Except PyError QuotaReply → Reservations
  | .reserve demand, .ok (.reserved true) => granted.grant demand
  | .release demand, .ok .done => granted.release demand
  | _, _ => granted

end Reservations

structure Booked where
  ledger : QuotaLedger
  granted : Reservations

namespace Booked

def start : Booked := ⟨.empty, .empty⟩

def step (context : PyDecimal.Context) (s : Booked) (call : QuotaCall) : Booked where
  ledger := (s.ledger.serve context call).2
  granted := s.granted.record call (s.ledger.serve context call).1

end Booked

/-! ## Calls in order -/

/-- The context does not round the sum. -/
def Exact (context : PyDecimal.Context) (p : ℚ) : PyDecimal → Prop
  | .finite q => context.round (p + q) = .ok (p + q)
  | _ => False

instance (context : PyDecimal.Context) (p : ℚ) : (d : PyDecimal) → Decidable (Exact context p d)
  | .finite q => inferInstanceAs (Decidable (context.round (p + q) = .ok (p + q)))
  | .infinity _ => isFalse id
  | .nan => isFalse id

/-- A `reserve` does not come back to a key that was released; a `release`
names an outstanding reservation, or a tenant that never had one and raises. -/
def InOrder (context : PyDecimal.Context) (s : Booked) : QuotaCall → Prop
  | .configure _ _ => True
  | .reserve demand =>
      (demand.key?.any fun key => !(s.granted.get? key).any (·.released)) = true ∧
      Exact context (s.granted.load demand.tenantId).2.1 demand.gpuHours
  | .release demand =>
      s.ledger.used.get? demand.tenantId = none ∨
      (demand.key?.any fun key =>
        s.granted.get? key = some ⟨demand.gpus, demand.gpuHours, false⟩) = true ∧
      Exact context (s.granted.load demand.tenantId).2.1 demand.gpuHours.neg

instance (context : PyDecimal.Context) (s : Booked) :
    (call : QuotaCall) → Decidable (InOrder context s call)
  | .configure _ _ => isTrue trivial
  | .reserve _ => inferInstanceAs (Decidable (_ ∧ _))
  | .release _ => inferInstanceAs (Decidable (_ ∨ _))

/-! ## What each call does -/

variable {demand : Demand} {tenantId : String}

theorem Demand.check_ok {q : ℚ} (hq : demand.gpuHours = .finite q) (h : demand.check = .ok ()) :
    0 ≤ demand.gpus ∧ 0 ≤ q := by
  unfold Demand.check at h
  rw [hq, lt_finite] at h
  by_cases hgpus : demand.gpus < 0
  · simp [hgpus, bind, Except.bind, throw, throwThe, MonadExceptOf.throw] at h
  · by_cases hhours : q < 0
    · simp [hgpus, hhours, bind, Except.bind, throw, throwThe, MonadExceptOf.throw] at h
    · exact ⟨not_lt.mp hgpus, not_lt.mp hhours⟩

namespace QuotaLedger

variable {context : PyDecimal.Context} {ledger ledger' : QuotaLedger} {demand : Demand}

/-- A `reserve` that returns was a retry, was refused, or was granted. -/
theorem reserve_cases {granted : Bool}
    (h : ledger.reserve context demand = .ok (granted, ledger')) :
    demand.check = .ok () ∧
      ((granted = true ∧ ledger' = ledger ∧
          demand.key?.bind ledger.reservations.get? = some (demand.gpus, demand.gpuHours)) ∨
        (granted = false ∧ ledger' = ledger) ∨
        (granted = true ∧ demand.key?.bind ledger.reservations.get? = none ∧
          ∃ quota usage, ledger.quotas.get? demand.tenantId = some quota ∧
            within context quota (ledger.usage demand.tenantId) demand = .ok (some usage) ∧
            ledger' = ledger.grant demand usage)) := by
  unfold reserve at h
  obtain ⟨⟨⟩, hcheck, h⟩ := bind_eq_ok.mp h
  refine ⟨hcheck, ?_⟩
  split at h
  · rename_i existing hexisting
    split at h
    · cases h
    · rename_i hsame
      cases h
      exact .inl ⟨rfl, rfl, hexisting.trans (congrArg some (not_not.mp hsame))⟩
  · rename_i hnew
    split at h
    · cases h
      exact .inr (.inl ⟨rfl, rfl⟩)
    rename_i quota hquota
    obtain ⟨outcome, hwithin, h⟩ := bind_eq_ok.mp h
    cases outcome with
    | none =>
      cases h
      exact .inr (.inl ⟨rfl, rfl⟩)
    | some usage =>
      cases h
      exact .inr (.inr ⟨rfl, hnew, quota, usage, hquota, hwithin, rfl⟩)

variable {quota : Quota} {q : ℚ} {load : Load}

/-- A demand that fits makes the load that the new usage is right for, and the
quota covers it. -/
theorem within_load {usage : Usage} (hq : demand.gpuHours = .finite q)
    (hexact : Exact context load.2.1 demand.gpuHours)
    (h : within context quota load.usage demand = .ok (some usage)) :
    usage = Load.usage (load + (demand.gpus, q, 1)) ∧
      quota.Covers (load + (demand.gpus, q, 1)) := by
  unfold within at h
  rw [hq] at hexact h
  rw [show load.usage.hours = .finite load.2.1 from rfl, add_finite hexact] at h
  split at h
  · cases h
  rename_i hgpus
  obtain ⟨hours, hhours, h⟩ := bind_eq_ok.mp h
  cases hhours
  obtain ⟨exceeds, hexceeds, h⟩ := bind_eq_ok.mp h
  cases exceeds with
  | true => cases h
  | false =>
    simp only [Bool.false_eq_true, if_false] at h
    split at h
    · cases h
    · rename_i hjobs
      cases h
      exact ⟨rfl, not_lt.mp hgpus, PyDecimal.lt_eq_false.mp hexceeds, not_lt.mp hjobs⟩

/-- A release of part of the load leaves the rest: nothing is cut off at
zero. -/
theorem release_load (hq : demand.gpuHours = .finite q)
    (hexact : Exact context load.2.1 demand.gpuHours.neg) (hle : (demand.gpus, q, 1) ≤ load)
    (hused : ledger.used.get? demand.tenantId = some load.usage) :
    ledger.release context demand = .ok { ledger with
      used := ledger.used.set demand.tenantId (Load.usage (load - (demand.gpus, q, 1))) } := by
  obtain ⟨hgpus, hhours, hjobs⟩ := hle
  have hsub : load.usage.hours.sub context (.finite q) = .ok (.finite (load.2.1 - q)) := by
    rw [hq] at hexact
    refine sub_finite ?_
    rw [sub_eq_add_neg]
    exact hexact
  have hmax : PyDecimal.max (.finite 0) (.finite (load.2.1 - q)) = .ok (.finite (load.2.1 - q)) :=
    max_of_nonneg (sub_nonneg.mpr hhours)
  have hgpus' : max 0 (load.usage.gpus - demand.gpus) = load.1 - demand.gpus :=
    max_eq_right (sub_nonneg.mpr hgpus)
  have hjobs' : max 0 (load.usage.jobs - 1) = load.2.2 - 1 := max_eq_right (sub_nonneg.mpr hjobs)
  unfold release
  rw [hused]
  simp only [hq, hsub, hmax, hgpus', hjobs', bind, Except.bind, pure, Except.pure]
  rfl

/-- A quota that `configure` accepts covers the usage. -/
theorem configure_load
    (hused : ledger.usage tenantId = load.usage)
    (h : ledger.configure tenantId quota = .ok ledger') :
    ledger' = { ledger with quotas := ledger.quotas.set tenantId quota } ∧ quota.Covers load := by
  unfold configure at h
  rw [hused] at h
  obtain ⟨⟨⟩, -, h⟩ := bind_eq_ok.mp h
  by_cases hgpus : load.usage.gpus > quota.maxGpus
  · simp [hgpus, bind, Except.bind, throw, throwThe, MonadExceptOf.throw] at h
  simp only [hgpus, if_false] at h
  obtain ⟨exceeds, hexceeds, h⟩ := bind_eq_ok.mp h
  cases exceeds with
  | true => cases h
  | false =>
    by_cases hjobs : load.usage.jobs > quota.maxConcurrentJobs
    · simp [hjobs, bind, Except.bind, throw, throwThe, MonadExceptOf.throw] at h
    · simp only [hjobs, Bool.false_eq_true, if_false] at h
      cases h
      exact ⟨rfl, not_lt.mp hgpus, PyDecimal.lt_eq_false.mp hexceeds, not_lt.mp hjobs⟩

end QuotaLedger

/-! ## Every call in order keeps the accounts -/

/-- The ledger's dictionaries say what the record says. -/
structure Accounted (s : Booked) : Prop where
  usage : ∀ tenantId, s.ledger.usage tenantId = (s.granted.load tenantId).usage
  covered : ∀ tenantId quota, s.ledger.quotas.get? tenantId = some quota →
    quota.Covers (s.granted.load tenantId)
  keys : ∀ key, s.ledger.reservations.get? key =
    (s.granted.get? key).map fun reservation => (reservation.gpus, reservation.gpuHours)
  proper : s.granted.AllProper

theorem accounted_start : Accounted .start where
  usage _ := rfl
  covered _ _ h := by cases h
  keys _ := rfl
  proper _ _ h := by cases h

theorem QuotaLedger.usage_set (ledger : QuotaLedger) (quotas : Dict String Quota)
    (reservations : Dict (String × String) (Int × PyDecimal)) (tenantId tenantId' : String)
    (usage : Usage) :
    (QuotaLedger.mk quotas (ledger.used.set tenantId usage) reservations).usage tenantId' =
      if tenantId = tenantId' then usage else ledger.usage tenantId' := by
  simp only [QuotaLedger.usage, get?_set]
  split <;> rfl

namespace Accounted

variable {context : PyDecimal.Context} {s : Booked} {demand : Demand}
  {reservationKey : String} {quota : Quota} {q : ℚ}

theorem grant (h : Accounted s) (hnew : s.granted.get? (demand.tenantId, reservationKey) = none)
    (hkey : demand.key? = some (demand.tenantId, reservationKey))
    (hq : demand.gpuHours = .finite q) (hproper : 0 ≤ demand.gpus ∧ 0 ≤ q)
    (hquota : s.ledger.quotas.get? demand.tenantId = some quota)
    (hcovers : quota.Covers (s.granted.load demand.tenantId + (demand.gpus, q, 1))) :
    Accounted ⟨s.ledger.grant demand
        (Load.usage (s.granted.load demand.tenantId + (demand.gpus, q, 1))),
      set s.granted (demand.tenantId, reservationKey)
        ⟨demand.gpus, .finite q, false⟩⟩ where
  usage tenantId := by
    rw [QuotaLedger.grant, QuotaLedger.usage_set]
    split
    · rename_i heq
      rw [← heq, load_grant hnew]
    · rename_i hne
      rw [load_set_other _ hne, h.usage]
  covered tenantId quota' hquota' := by
    by_cases heq : demand.tenantId = tenantId
    · subst heq
      cases hquota.symm.trans hquota'
      rwa [load_grant hnew]
    · rw [load_set_other _ heq]
      exact h.covered tenantId quota' hquota'
  keys key := by
    simp only [QuotaLedger.grant, hkey, hq, get?_set, h.keys key]
    split <;> rfl
  proper := h.proper.set ⟨hproper.1, q, rfl, hproper.2⟩ _

theorem release (h : Accounted s)
    (hheld : s.granted.get? (demand.tenantId, reservationKey) =
      some ⟨demand.gpus, .finite q, false⟩) :
    Accounted ⟨{ s.ledger with
        used := s.ledger.used.set demand.tenantId
          (Load.usage (s.granted.load demand.tenantId - (demand.gpus, q, 1))) },
      set s.granted (demand.tenantId, reservationKey) ⟨demand.gpus, .finite q, true⟩⟩ where
  usage tenantId := by
    rw [QuotaLedger.usage_set]
    split
    · rename_i heq
      rw [← heq, load_release hheld]
    · rename_i hne
      rw [load_set_other _ hne, h.usage]
  covered tenantId quota hquota := by
    by_cases heq : demand.tenantId = tenantId
    · subst heq
      rw [load_release hheld]
      have hnonneg : (0 : Load) ≤ (demand.gpus, q, 1) :=
        (h.proper _ _ hheld).load_nonneg
      exact (h.covered _ _ hquota).mono (sub_le_self _ hnonneg)
    · rw [load_set_other _ heq]
      exact h.covered tenantId quota hquota
  keys key := by
    rw [h.keys key, get?_set]
    split
    · rename_i heq
      rw [← heq, hheld]
      rfl
    · rfl
  proper := by
    obtain ⟨hgpus, hhours⟩ := h.proper _ _ hheld
    have hproper : (⟨demand.gpus, .finite q, true⟩ : Reservation).Proper := ⟨hgpus, hhours⟩
    exact h.proper.set hproper _

theorem configure (h : Accounted s)
    (hcovers : quota.Covers (s.granted.load tenantId)) :
    Accounted ⟨{ s.ledger with quotas := s.ledger.quotas.set tenantId quota }, s.granted⟩ where
  usage := h.usage
  covered tenantId' quota' hget := by
    rw [get?_set] at hget
    split at hget
    · rename_i heq
      cases hget
      rwa [← heq]
    · exact h.covered tenantId' quota' hget
  keys := h.keys
  proper := h.proper

end Accounted

/-! ## Steps -/

theorem Demand.key?_fst {key : String × String} (h : demand.key? = some key) :
    ∃ reservationKey, key = (demand.tenantId, reservationKey) := by
  obtain ⟨reservationKey, -, rfl⟩ := map_eq_some_iff.mp h
  exact ⟨reservationKey, rfl⟩

theorem Exact.finite {context : PyDecimal.Context} {p : ℚ} {d : PyDecimal}
    (h : Exact context p d) : ∃ q, d = .finite q := by
  cases d with
  | finite q => exact ⟨q, rfl⟩
  | infinity _ => exact h.elim
  | nan => exact h.elim

section

variable {context : PyDecimal.Context} {s : Booked} {demand : Demand}

/-- **One call.** A `reserve` in order keeps the accounts, and True means that
the record has its demand as an outstanding reservation. -/
theorem reserve_step (h : Accounted s) (horder : InOrder context s (.reserve demand)) :
    Accounted (s.step context (.reserve demand)) ∧
      ((s.ledger.serve context (.reserve demand)).1 = .ok (.reserved true) →
        ∃ key, demand.key? = some key ∧ (s.step context (.reserve demand)).granted.get? key =
          some ⟨demand.gpus, demand.gpuHours, false⟩) := by
  obtain ⟨hfresh, hexact⟩ := horder
  obtain ⟨key, hkey, hfresh⟩ := (any_eq_true _ _).mp hfresh
  obtain ⟨reservationKey, rfl⟩ := Demand.key?_fst hkey
  obtain ⟨q, hq⟩ := hexact.finite
  unfold Booked.step
  cases hreserve : s.ledger.reserve context demand with
  | error e =>
    simp only [QuotaLedger.serve, hreserve]
    exact ⟨h, fun hreply => by cases hreply⟩
  | ok outcome =>
    obtain ⟨granted, ledger'⟩ := outcome
    simp only [QuotaLedger.serve, hreserve]
    obtain ⟨hcheck, ⟨rfl, rfl, hheld⟩ | ⟨rfl, rfl⟩ |
      ⟨rfl, hnew, quota, usage, hquota, hwithin, rfl⟩⟩ := QuotaLedger.reserve_cases hreserve
    · -- a retry: the key is in the table, so it is in the record, and was not released
      rw [hkey, bind_some, h.keys] at hheld
      obtain ⟨⟨gpus, gpuHours, released⟩, hget, hsame⟩ := map_eq_some_iff.mp hheld
      cases hsame
      have hopen : released = false := by simpa [hget] using hfresh
      subst hopen
      have hgrant : s.granted.grant demand = s.granted := by
        simp [grant, hkey, hget]
      simp only [record, hgrant]
      exact ⟨h, fun _ => ⟨_, hkey, hget⟩⟩
    · exact ⟨h, fun hreply => by cases hreply⟩
    · rw [hkey, bind_some, h.keys, map_eq_none_iff] at hnew
      have hgrant : s.granted.grant demand =
          set s.granted (demand.tenantId, reservationKey) ⟨demand.gpus, .finite q, false⟩ := by
        simp [grant, hkey, hnew, hq]
      rw [h.usage] at hwithin
      obtain ⟨rfl, hcovers⟩ := QuotaLedger.within_load hq hexact hwithin
      simp only [record, hgrant]
      refine ⟨h.grant hnew hkey hq (Demand.check_ok hq hcheck) hquota hcovers, fun _ => ?_⟩
      exact ⟨_, hkey, by rw [hq, get?_set_self]⟩

/-- **One call.** So does a `release` in order. -/
theorem release_step (h : Accounted s) (horder : InOrder context s (.release demand)) :
    Accounted (s.step context (.release demand)) := by
  unfold Booked.step
  rcases horder with hnone | ⟨hheld, hexact⟩
  · have hraises : s.ledger.release context demand = .error (.keyError demand.tenantId) := by
      rw [QuotaLedger.release, hnone]
      rfl
    simp only [QuotaLedger.serve, hraises]
    exact h
  · obtain ⟨key, hkey, hheld⟩ := (any_eq_true _ _).mp hheld
    have hheld := of_decide_eq_true hheld
    obtain ⟨reservationKey, rfl⟩ := Demand.key?_fst hkey
    obtain ⟨-, q, hq, -⟩ := h.proper _ _ hheld
    rw [show demand.gpuHours = .finite q from hq] at hheld
    have hle := h.proper.le_load hheld
    have hused : s.ledger.used.get? demand.tenantId =
        some (s.granted.load demand.tenantId).usage := by
      have husage := h.usage demand.tenantId
      rw [QuotaLedger.usage] at husage
      cases hget : s.ledger.used.get? demand.tenantId with
      | some usage => rw [← husage, hget, getD_some]
      | none =>
        -- the load would be zero, but it has the reservation in it
        rw [hget, getD_none, ← Load.usage_zero] at husage
        rw [← Load.usage_injective husage] at hle
        have hjobs : (1 : ℤ) ≤ 0 := hle.2.2
        exact absurd hjobs (by decide)
    have hrecord : s.granted.release demand = set s.granted
        (demand.tenantId, reservationKey) ⟨demand.gpus, .finite q, true⟩ := by
      simp [release, hkey, show demand.gpuHours = .finite q from hq, hheld]
    simp only [QuotaLedger.serve, QuotaLedger.release_load hq hexact hle hused, record, hrecord]
    exact h.release hheld

theorem configure_step (h : Accounted s) (tenantId : String) (quota : Quota) :
    Accounted (s.step context (.configure tenantId quota)) := by
  unfold Booked.step
  cases hconfigure : s.ledger.configure tenantId quota with
  | error e =>
    simp only [QuotaLedger.serve, hconfigure]
    exact h
  | ok ledger' =>
    simp only [QuotaLedger.serve, hconfigure]
    obtain ⟨rfl, hcovers⟩ := QuotaLedger.configure_load (h.usage tenantId) hconfigure
    exact h.configure hcovers

/-- **One call.** Every call in order keeps the accounts. -/
theorem accounted_step (s : Booked) (call : QuotaCall) (horder : InOrder context s call)
    (h : Accounted s) : Accounted (s.step context call) := by
  cases call with
  | configure tenantId quota => exact configure_step h tenantId quota
  | reserve demand => exact (reserve_step h horder).1
  | release demand => exact release_step h horder

end

/-! ## Runs -/

/-- **Main result.** After any calls in order, the usage of every tenant is the
load of the reservations that were granted and not released, the quota covers
it, and a `reserve` returns True only if its demand is among them. -/
theorem ledger_counts_outstanding (context : PyDecimal.Context) (calls : List QuotaCall)
    (h : Guarded (Booked.step context) (InOrder context) .start calls) (tenantId : String) :
    (run (Booked.step context) .start calls).ledger.usage tenantId =
        ((run (Booked.step context) .start calls).granted.load tenantId).usage ∧
      (∀ quota, (run (Booked.step context) .start calls).ledger.quotas.get? tenantId = some quota →
        quota.Covers ((run (Booked.step context) .start calls).granted.load tenantId)) ∧
      ∀ demand, InOrder context (run (Booked.step context) .start calls) (.reserve demand) →
        ((run (Booked.step context) .start calls).ledger.serve context (.reserve demand)).1 =
          .ok (.reserved true) →
        ∃ key, demand.key? = some key ∧
          (run (Booked.step context) .start (calls ++ [.reserve demand])).granted.get? key =
            some ⟨demand.gpus, demand.gpuHours, false⟩ := by
  have haccounted : Accounted (run (Booked.step context) .start calls) :=
    guarded_invariant accounted_step calls .start h accounted_start
  refine ⟨haccounted.usage tenantId, haccounted.covered tenantId, ?_⟩
  intro demand horder hreply
  rw [run_append]
  exact (reserve_step haccounted horder).2 hreply

/-- A quota of four GPUs, ten hours and two jobs. -/
def sampleQuota : Quota := ⟨4, .finite 10, 2⟩

/-- Two GPUs for four hours under a key. -/
def sampleDemand (key : String) : Demand := ⟨"tenant-one", 2, .finite 4, some key⟩

/-- A retry, a second job, a third that is refused, and a release. -/
def sampleCalls : List QuotaCall :=
  [.configure "tenant-one" sampleQuota, .reserve (sampleDemand "job-one"),
    .reserve (sampleDemand "job-one"), .reserve (sampleDemand "job-two"),
    .reserve (sampleDemand "job-three"), .release (sampleDemand "job-one")]

theorem ledger_counts_outstanding_sampleCalls :
    (run (Booked.step .exact) .start sampleCalls).ledger.usage "tenant-one" = ⟨2, .finite 4, 1⟩ ∧
      ((run (Booked.step .exact) .start sampleCalls).granted.load "tenant-one").usage =
        ⟨2, .finite 4, 1⟩ := by
  have horder : Guarded (Booked.step .exact) (InOrder .exact) .start sampleCalls := by
    decide +kernel
  have husage : (run (Booked.step .exact) .start sampleCalls).ledger.usage "tenant-one" =
      ⟨2, .finite 4, 1⟩ := by decide +kernel
  exact ⟨husage, (ledger_counts_outstanding .exact sampleCalls horder "tenant-one").1 ▸ husage⟩

/-- A `reserve` after the `release` of its key returns True and is not counted;
a second `release` of a key takes another job's GPUs off the usage. -/
theorem reserved_uncounted :
    (let s := run (Booked.step .exact) .start
        [.configure "tenant-one" sampleQuota, .reserve (sampleDemand "job-one"),
          .release (sampleDemand "job-one")]
     (s.ledger.serve .exact (.reserve (sampleDemand "job-one"))).1 = .ok (.reserved true) ∧
      (s.step .exact (.reserve (sampleDemand "job-one"))).ledger.usage "tenant-one" = .zero) ∧
    (let s := run (Booked.step .exact) .start
        [.configure "tenant-one" sampleQuota, .reserve (sampleDemand "job-one"),
          .reserve (sampleDemand "job-two"), .release (sampleDemand "job-one"),
          .release (sampleDemand "job-one")]
     s.ledger.usage "tenant-one" = .zero ∧ s.granted.load "tenant-one" = (2, 4, 1)) := by
  decide +kernel

end ComputeWeaver.Workloads
