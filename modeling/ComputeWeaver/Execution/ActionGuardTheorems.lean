/-
Execution.ActionGuardTheorems — which votes an allowed action
rests on.

The workflow asks for two votes when the APPROVAL's risk is L3 or above; the
guard asks for an approval when the ACTION's risk is L2 or above. Nothing ties
the two risks together, so an action of risk L3 passes on an approval of risk
L0 with a single vote. The votes of an approved request are exactly as many
as it asks for (at least one), so what decides is its `required_count`.
-/
import Mathlib.Data.Finset.Card
import ComputeWeaver.Approval.WorkflowTheorems
import ComputeWeaver.Execution.ActionGuard

namespace ComputeWeaver.Execution

open Lib Risk Approval

namespace ActionGuard

variable {env : PyEnv} {guard : ActionGuard} {action : Action} {currentStateVersion : String}
  {now : DateTime} {approval : Option ApprovalRequest} {decision : GuardDecision}

/-- What an approval without a reason against it is. -/
structure Covers (action : Action) (now : DateTime) (request : ApprovalRequest) : Prop where
  approved : request.status = .approved
  plan : request.planId = action.planId
  tenant : request.tenantId = action.tenantId
  unexpired : now.ge request.expiresAt = .ok false

theorem approvalReasons_eq_nil (hrisk : RiskLevel.L2 ≤ action.risk)
    (h : approvalReasons action now approval = .ok []) :
    ∃ request, approval = some request ∧ Covers action now request := by
  unfold approvalReasons at h
  rw [if_pos hrisk] at h
  cases approval with
  | none => simp at h
  | some request =>
    simp only [except_pure] at h
    split at h
    · simp at h
    rename_i hstatus
    split at h
    · simp at h
    rename_i hscope
    rw [not_or, not_not, not_not] at hscope
    obtain ⟨expired, hexpired, h⟩ := bind_eq_ok.mp h
    cases expired with
    | true => simp at h
    | false => exact ⟨request, rfl, not_not.mp hstatus, hscope.1, hscope.2, hexpired⟩

theorem evaluate_allowed
    (h : guard.evaluate env action currentStateVersion now approval = .ok decision)
    (hallowed : decision.allowed) :
    action.kind ∈ guard.whitelist ∧ action.kind ∉ prohibitedEnergyCommands ∧
      currentStateVersion = action.expectedStateVersion ∧
      guard.isStale now action.createdAt = .ok false ∧
      approvalReasons action now approval = .ok [] := by
  obtain ⟨stale, hstale, h⟩ := bind_eq_ok.mp h
  obtain ⟨bounds, _, h⟩ := bind_eq_ok.mp h
  obtain ⟨approvals, hreasons, h⟩ := bind_eq_ok.mp h
  cases h
  simp only [List.isEmpty_iff, List.append_eq_nil_iff] at hallowed
  obtain ⟨⟨⟨⟨⟨hkind, henergy⟩, hstate⟩, hage⟩, -⟩, happrovals⟩ := hallowed
  refine ⟨?_, ?_, ?_, ?_, happrovals ▸ hreasons⟩
  · by_contra hne
    simp [hne] at hkind
  · intro hmem
    simp [hmem] at henergy
  · by_contra hne
    simp [hne] at hstate
  · cases stale with
    | true => simp at hage
    | false => exact hstale

theorem evaluate_covers
    (h : guard.evaluate env action currentStateVersion now approval = .ok decision)
    (hallowed : decision.allowed) (hrisk : RiskLevel.L2 ≤ action.risk) :
    ∃ request, approval = some request ∧ Covers action now request := by
  obtain ⟨-, -, -, -, hreasons⟩ := evaluate_allowed h hallowed
  exact approvalReasons_eq_nil hrisk hreasons

end ActionGuard

/-- The actors other than the requester who voted for a request. -/
def otherVoters (request : ApprovalRequest) : Finset String :=
  (request.approvals.map Prod.fst).toFinset.erase request.requestedBy

theorem card_otherVoters {request : ApprovalRequest} (hq : Quorum request) :
    (otherVoters request).card = request.approvals.length := by
  have hrequester : request.requestedBy ∉ (request.approvals.map Prod.fst).toFinset := by
    intro hmem
    obtain ⟨vote, hvote, heq⟩ := List.mem_map.mp (List.mem_toFinset.mp hmem)
    exact hq.voter_ne_requester vote hvote heq
  rw [otherVoters, Finset.erase_eq_of_notMem hrequester,
    List.toFinset_card_of_nodup hq.voters_nodup, List.length_map]

/-- **Main result.** Whenever the guard allows an action of risk L3 or above on
an approval that some sequence of calls has led to, two actors other than the
requester have voted for that approval exactly when it asks for two votes at
least. -/
theorem allowed_on_two_votes_iff (env : PyEnv) (guard : ActionGuard) (ops : List WorkflowOp)
    (requestId : String) (request : ApprovalRequest) (action : Action)
    (currentStateVersion : String) (now : DateTime) (decision : GuardDecision)
    (hget : (run ApprovalWorkflow.step .empty ops).requests.get? requestId = some request)
    (hrisk : RiskLevel.L3 ≤ action.risk)
    (heval : guard.evaluate env action currentStateVersion now (some request) = .ok decision)
    (hallowed : decision.allowed) : 2 ≤ (otherVoters request).card ↔ 2 ≤ request.requiredCount := by
  obtain ⟨-, hq⟩ := run_quorum ops requestId request hget
  have hvotes := run_votes ops requestId request hget
  obtain ⟨_, hrequest, hcovers⟩ :=
    ActionGuard.evaluate_covers heval hallowed (RiskLevel.L2_le_of_L3_le hrisk)
  cases hrequest
  obtain ⟨-, hcount⟩ := hq.approved_iff.mp hcovers.approved
  rw [card_otherVoters hq]
  constructor
  · intro htwo
    omega
  · intro htwo
    omega

/-! ## Concrete actions -/

def sampleAction (risk : RiskLevel) : Action where
  id := "action-1"
  planId := "plan-1"
  tenantId := "tenant-1"
  target := "simulator"
  kind := "schedule_job"
  expectedStateVersion := "state-1"
  parameters := [("gpu_count", .int 4)]
  bounds := Dict.empty.set "gpu_count" (.finite 0, .finite 8)
  timeoutSeconds := 30
  idempotencyKey := "action-key-1"
  risk := risk
  createdAt := .aware 10
  compensationKind := .none

theorem allowed_on_two_votes_iff_quorumOps :
    2 ≤ (otherVoters quorumRequest).card := by
  have hget : (run ApprovalWorkflow.step .empty quorumOps).requests.get? "approval-1" =
      some quorumRequest := by decide +kernel
  have heval : apiGuard.evaluate .plain (sampleAction .L3) "state-1" (.aware 20)
      (some quorumRequest) = .ok ⟨true, []⟩ := by decide +kernel
  exact (allowed_on_two_votes_iff .plain apiGuard quorumOps "approval-1" quorumRequest
    (sampleAction .L3) "state-1" (.aware 20) ⟨true, []⟩ hget (by decide) heval rfl).mpr
    (by decide)

/-- One operator approves a risk-L0 request of another actor. -/
def singleVoteOps : List WorkflowOp :=
  [.create ⟨{ id := "approval-1", planId := "plan-1", tenantId := "tenant-1", risk := .L0,
              requestedBy := "alice", expiresAt := .aware 100, requiredRoles := {"operator"},
              requiredCount := 1 }, rfl, rfl⟩,
   .approve "approval-1" "bob" "operator" (.aware 1)]

/-- The guard allows an action of risk L3 on the vote of a single actor. -/
theorem single_vote_allows_action :
    ∃ request,
      (run ApprovalWorkflow.step .empty singleVoteOps).requests.get? "approval-1" = some request ∧
      apiGuard.evaluate .plain (sampleAction .L3) "state-1" (.aware 20) (some request) =
        .ok ⟨true, []⟩ ∧
      (otherVoters request).card = 1 := by
  have hrun : ((run ApprovalWorkflow.step .empty singleVoteOps).requests.get?
      "approval-1").any (fun request =>
        decide (apiGuard.evaluate .plain (sampleAction .L3) "state-1" (.aware 20)
          (some request) = .ok ⟨true, []⟩ ∧ (otherVoters request).card = 1)) = true := by
    decide +kernel
  obtain ⟨request, hget, hfacts⟩ := (Option.any_eq_true _ _).mp hrun
  obtain ⟨heval, hvotes⟩ := of_decide_eq_true hfacts
  exact ⟨request, hget, heval, hvotes⟩

end ComputeWeaver.Execution
