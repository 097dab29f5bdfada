/-
Execution.GuardTotalityTheorems — when the guard answers at all.

A parameter that is no number, or a NaN, raises `InvalidOperation`, which the
handler around the conversion does not name; a naive time cannot be ordered
against the aware clock. `Readable` says that neither occurs. Each check gets two
lemmas: when it returns, and when what it returns is empty. Where the guard
answers, it allows exactly what `Permitted` asks for.
-/
import ComputeWeaver.Execution.ActionGuardTheorems
import ComputeWeaver.Lib.Itertools

namespace ComputeWeaver.Execution

open Lib Risk Approval DateTime PyDecimal

namespace ActionGuard

variable {env : PyEnv} {guard : ActionGuard} {action : Action} {currentStateVersion : String}
  {approval : Option ApprovalRequest} {t : Int}

/-- What an allowed action has to meet. -/
structure Permitted (env : PyEnv) (guard : ActionGuard) (action : Action)
    (currentStateVersion : String) (now : DateTime) (approval : Option ApprovalRequest) :
    Prop where
  whitelisted : action.kind ∈ guard.whitelist
  not_prohibited : action.kind ∉ prohibitedEnergyCommands
  state : currentStateVersion = action.expectedStateVersion
  age : now.micros - action.createdAt.micros ≤ guard.maxAge
  bounds : ∀ name lo hi, (name, .finite lo, .finite hi) ∈ action.bounds.entries →
    ∃ value q, assocGet action.parameters name = some value ∧
      env.decimal value = .ok (.finite q) ∧ lo ≤ q ∧ q ≤ hi
  approval : RiskLevel.L2 ≤ action.risk → ∃ request, approval = some request ∧
    request.status = .approved ∧ request.planId = action.planId ∧
    request.tenantId = action.tenantId ∧ now.micros < request.expiresAt.micros

/-- The creation time is aware, a bounded parameter that is present is a number,
and so is the expiry of the approval where the guard gets to it. -/
structure Readable (env : PyEnv) (action : Action) (approval : Option ApprovalRequest) :
    Prop where
  created : action.createdAt.isNaive = false
  parameters : ∀ bound ∈ action.bounds.entries, ∀ value,
    assocGet action.parameters bound.1 = some value → ∃ d, env.decimal value = .ok d ∧ d ≠ .nan
  expiry : RiskLevel.L2 ≤ action.risk → ∀ request, approval = some request →
    request.status = .approved → request.planId = action.planId →
    request.tenantId = action.tenantId → request.expiresAt.isNaive = false

theorem decimal_error {value : Value} {e : PyError} (h : env.decimal value = .error e) :
    e = .invalidOperation := by
  unfold PyEnv.decimal at h
  split at h
  · simp at h
  · simp at h
  · split at h
    · simp at h
    · split at h
      · simp at h
      · simpa using h.symm

section

variable {parameters : Document} {name : String} {lo hi : Rat}

/-- The check of a bound answers unless a parameter is there that is no number; it has no
reason against a number within the bounds, and only there. -/
theorem boundReasons_iff :
    ((∃ reasons, boundReasons env parameters name (.finite lo) (.finite hi) = .ok reasons) ↔
      ∀ value, assocGet parameters name = some value → ∃ d, env.decimal value = .ok d ∧ d ≠ .nan) ∧
    (boundReasons env parameters name (.finite lo) (.finite hi) = .ok [] ↔
      ∃ value q, assocGet parameters name = some value ∧ env.decimal value = .ok (.finite q) ∧
        lo ≤ q ∧ q ≤ hi) := by
  cases hget : assocGet parameters name with
  | none => simp [boundReasons, docItem, hget]
  | some value =>
    cases hd : env.decimal value with
    | error e =>
      obtain rfl := decimal_error hd
      simp [boundReasons, docItem, hget, hd]
    | ok d =>
      have hread : (do env.decimal (← docItem parameters name)) = .ok d := by
        simp [docItem, hget, hd]
      rw [boundReasons, hread]
      cases d with
      | finite q => by_cases hlo : lo ≤ q <;> by_cases hhi : q ≤ hi <;> simp [le, *]
      | infinity negative => cases negative <;> simp [le, hd]
      | nan => simp [le, hd]

end

theorem isStale_returns (guard : ActionGuard) (t : Int) (createdAt : DateTime) :
    (∃ stale, guard.isStale (.aware t) createdAt = .ok stale) ↔ createdAt.isNaive = false := by
  cases createdAt <;> simp [isStale, DateTime.Comparable, isNaive]

theorem approvalReasons_returns :
    (∃ reasons, approvalReasons action (.aware t) approval = .ok reasons) ↔
      (RiskLevel.L2 ≤ action.risk → ∀ request, approval = some request →
        request.status = .approved → request.planId = action.planId →
        request.tenantId = action.tenantId → request.expiresAt.isNaive = false) := by
  unfold approvalReasons
  by_cases hrisk : RiskLevel.L2 ≤ action.risk
  · cases approval with
    | none => simp [hrisk]
    | some request =>
      by_cases hstatus : request.status = .approved
      · by_cases hscope : request.planId ≠ action.planId ∨ request.tenantId ≠ action.tenantId
        · have hoff : request.planId = action.planId → request.tenantId ≠ action.tenantId := by
            rcases hscope with hplan | htenant
            · exact fun h => absurd h hplan
            · exact fun _ => htenant
          simp [hrisk, hstatus, hscope]
          exact fun hplan htenant => absurd htenant (hoff hplan)
        · simp only [ne_eq, not_or, not_not] at hscope
          cases hexpiry : request.expiresAt with
          | naive m => simp [hrisk, hstatus, hscope, hexpiry, ge, DateTime.Comparable,
              isNaive]
          | aware m => by_cases hm : m ≤ t <;> simp [hrisk, hstatus, hscope, hexpiry, ge,
              DateTime.Comparable, isNaive, micros, hm]
      · simp [hrisk, hstatus]
  · simp [hrisk]

theorem approvalReasons_nil (h : Readable env action approval) :
    approvalReasons action (.aware t) approval = .ok [] ↔
      (RiskLevel.L2 ≤ action.risk → ∃ request, approval = some request ∧
        request.status = .approved ∧ request.planId = action.planId ∧
        request.tenantId = action.tenantId ∧ t < request.expiresAt.micros) := by
  constructor
  · intro hnil hrisk
    obtain ⟨request, happroval, hcovers⟩ := approvalReasons_eq_nil hrisk hnil
    have hunexpired := (ge_eq_ok.mp hcovers.unexpired).2
    exact ⟨request, happroval, hcovers.approved, hcovers.plan, hcovers.tenant,
      Int.not_le.mp (of_decide_eq_false hunexpired.symm)⟩
  · intro hcovered
    by_cases hrisk : RiskLevel.L2 ≤ action.risk
    · obtain ⟨request, happroval, hstatus, hplan, htenant, hunexpired⟩ := hcovered hrisk
      have haware := h.expiry hrisk request happroval hstatus hplan htenant
      have hge : ge (.aware t) request.expiresAt = .ok false :=
        ge_eq_ok.mpr ⟨haware.symm, (decide_eq_false (Int.not_le.mpr hunexpired)).symm⟩
      simp [approvalReasons, hrisk, happroval, hstatus, hplan, htenant, hge]
    · simp [approvalReasons, hrisk]

variable (hbounds : ∀ bound ∈ action.bounds.entries, ∃ lo hi, bound.2 = (.finite lo, .finite hi))

include hbounds

/-- The guard answers exactly where everything it reads is readable. -/
theorem evaluate_returns :
    (∃ decision, guard.evaluate env action currentStateVersion (.aware t) approval =
      .ok decision) ↔ Readable env action approval := by
  constructor
  · rintro ⟨decision, h⟩
    obtain ⟨stale, hstale, h⟩ := bind_eq_ok.mp h
    obtain ⟨reasons, hreasons, h⟩ := bind_eq_ok.mp h
    obtain ⟨approvals, happrovals, -⟩ := bind_eq_ok.mp h
    refine ⟨(isStale_returns guard t _).mp ⟨stale, hstale⟩, fun bound hbound => ?_,
      approvalReasons_returns.mp ⟨approvals, happrovals⟩⟩
    obtain ⟨lo, hi, hfinite⟩ := hbounds bound hbound
    obtain ⟨one, -, hone⟩ := exists_of_mapM_eq_ok hreasons hbound
    rw [hfinite] at hone
    exact boundReasons_iff.1.mp ⟨one, hone⟩
  · intro h
    obtain ⟨stale, hstale⟩ := (isStale_returns guard t _).mpr h.created
    obtain ⟨approvals, happrovals⟩ := (approvalReasons_returns (t := t)).mpr h.expiry
    obtain ⟨reasons, hreasons⟩ := mapM_ok (f := fun bound : String × PyDecimal × PyDecimal =>
        boundReasons env action.parameters bound.1 bound.2.1 bound.2.2) action.bounds.entries
      fun bound hbound => by
        obtain ⟨lo, hi, hfinite⟩ := hbounds bound hbound
        rw [hfinite]
        exact boundReasons_iff.1.mpr (h.parameters bound hbound)
    unfold evaluate
    rw [hstale, ok_bind, hreasons, ok_bind, happrovals]
    exact ⟨_, rfl⟩

theorem evaluate_allowed_iff (h : Readable env action approval) {decision : GuardDecision}
    (heval : guard.evaluate env action currentStateVersion (.aware t) approval = .ok decision) :
    decision.allowed = true ↔
      Permitted env guard action currentStateVersion (.aware t) approval := by
  obtain ⟨stale, hstale, heval⟩ := bind_eq_ok.mp heval
  obtain ⟨reasons, hreasons, heval⟩ := bind_eq_ok.mp heval
  obtain ⟨approvals, happrovals, heval⟩ := bind_eq_ok.mp heval
  cases heval
  have hage : stale = false ↔ t - action.createdAt.micros ≤ guard.maxAge := by
    have hcomparable : DateTime.Comparable (.aware t) action.createdAt := h.created.symm
    rw [isStale, if_pos hcomparable] at hstale
    cases hstale
    exact decide_eq_false_iff_not.trans Int.not_lt
  have happroved : approvals = [] ↔ approvalReasons action (.aware t) approval = .ok [] := by
    simp [happrovals]
  have hinside : reasons.flatten = [] ↔ ∀ name lo hi,
      (name, .finite lo, .finite hi) ∈ action.bounds.entries →
        boundReasons env action.parameters name (.finite lo) (.finite hi) = .ok [] := by
    rw [List.flatten_eq_nil_iff]
    constructor
    · intro hall name lo hi hmem
      obtain ⟨one, hone, heq⟩ := exists_of_mapM_eq_ok hreasons hmem
      rw [heq, hall one hone]
    · intro hall one hone
      obtain ⟨⟨name, bound⟩, hmem, heq⟩ := mem_of_mapM_eq_ok hreasons hone
      obtain ⟨lo, hi, rfl⟩ := hbounds _ hmem
      exact Except.ok.inj (heq.symm.trans (hall name lo hi hmem))
  have hsplit : ∀ (c : Prop) [Decidable c] (reason : String),
      (if c then [reason] else []) = [] ↔ ¬ c := by
    intro c _ reason
    by_cases hc : c <;> simp [hc]
  simp only [List.isEmpty_iff, List.append_eq_nil_iff, hsplit, not_not, Bool.not_eq_true, hage,
    hinside, boundReasons_iff.2, happroved, approvalReasons_nil h]
  constructor
  · rintro ⟨⟨⟨⟨⟨hkind, henergy⟩, hstate⟩, hold⟩, hin⟩, happ⟩
    exact ⟨hkind, henergy, hstate, hold, hin, happ⟩
  · rintro ⟨hkind, henergy, hstate, hold, hin, happ⟩
    exact ⟨⟨⟨⟨⟨hkind, henergy⟩, hstate⟩, hold⟩, hin⟩, happ⟩

omit hbounds

/-- **Main result.** With finite bounds and an aware clock, the guard returns
the decision that `Permitted` states exactly for the readable inputs. -/
theorem evaluate_decides_iff (env : PyEnv) (guard : ActionGuard) (action : Action)
    (currentStateVersion : String) (t : Int) (approval : Option ApprovalRequest)
    (hbounds : ∀ bound ∈ action.bounds.entries, ∃ lo hi, bound.2 = (.finite lo, .finite hi)) :
    (∃ decision, guard.evaluate env action currentStateVersion (.aware t) approval =
        .ok decision ∧ (decision.allowed = true ↔
          Permitted env guard action currentStateVersion (.aware t) approval)) ↔
      Readable env action approval := by
  constructor
  · rintro ⟨decision, heval, -⟩
    exact (evaluate_returns hbounds).mp ⟨decision, heval⟩
  · intro h
    obtain ⟨decision, heval⟩ := (evaluate_returns hbounds).mpr h
    exact ⟨decision, heval, evaluate_allowed_iff hbounds h heval⟩

theorem sampleAction_bounds : ∀ bound ∈ (sampleAction .L0).bounds.entries,
    ∃ lo hi, bound.2 = (.finite lo, .finite hi) := by
  intro bound hbound
  obtain rfl : bound = ("gpu_count", .finite 0, .finite 8) := by
    simpa [sampleAction, Dict.set, Dict.empty, assocSet] using hbound
  exact ⟨0, 8, rfl⟩

theorem evaluate_decides_iff_sampleAction :
    ∃ decision, apiGuard.evaluate .plain (sampleAction .L0) "state-1" (.aware 20) none =
      .ok decision ∧ (decision.allowed = true ↔
        Permitted .plain apiGuard (sampleAction .L0) "state-1" (.aware 20) none) := by
  refine (evaluate_decides_iff .plain apiGuard (sampleAction .L0) "state-1" 20 none
    sampleAction_bounds).mpr ⟨rfl, ?_, by simp⟩
  intro bound hbound value hvalue
  obtain rfl : bound = ("gpu_count", .finite 0, .finite 8) := by
    simpa [sampleAction, Dict.set, Dict.empty, assocSet] using hbound
  obtain rfl : value = .int 4 := by simpa [sampleAction, assocGet, eq_comm] using hvalue
  exact ⟨.finite 4, rfl, by simp⟩

def textAction : Action := { sampleAction .L0 with parameters := [("gpu_count", .str "nan")] }

/-- The guard raises instead of refusing. -/
theorem text_parameter_raises :
    apiGuard.evaluate .plain textAction "state-1" (.aware 20) none = .error .invalidOperation := by
  decide +kernel

end ActionGuard

end ComputeWeaver.Execution
