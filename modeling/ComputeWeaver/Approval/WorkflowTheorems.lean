/-
Approval.WorkflowTheorems — quorum and finality of approvals.

`RequestStep` says everything one call can do to the request stored under one
id, guards included. Every later fact about the workflow is a case analysis
over `RequestStep`.

`Quorum` is the invariant of one stored request. Votes are only ever added, and
requirements only change while there are none: so a vote's role stays among the
required roles. And a request leaves PENDING through its last vote, a rejection
or an expiry, all of which are final: so the count is reached exactly when the
status is APPROVED.
-/
import ComputeWeaver.Approval.Workflow

namespace ComputeWeaver.Approval

open Lib ComputeWeaver.Risk ApprovalWorkflow List

/-! ## What one call does to one request -/

/-- The request under `requestId` before and after one call. -/
inductive RequestStep (requestId : String) :
    Option ApprovalRequest → Option ApprovalRequest → Prop
  | same (r : Option ApprovalRequest) : RequestStep requestId r r
  | created (r : ApprovalRequest) (hid : r.id = requestId) (hstatus : r.status = .pending)
      (hvotes : r.approvals = [])
      (hcount : ApprovalWorkflow.minimum r.risk ≤ r.requiredCount) :
      RequestStep requestId none (some r)
  | voted (r : ApprovalRequest) (actorId role : String) (hstatus : r.status = .pending)
      (hactor : actorId ≠ r.requestedBy) (hrole : role ∈ r.requiredRoles)
      (hnew : actorId ∉ r.approvals.map Prod.fst) :
      RequestStep requestId (some r) (some { r with
        approvals := r.approvals ++ [(actorId, role)]
        status := if r.requiredCount ≤ (r.approvals ++ [(actorId, role)]).length
          then .approved else .pending })
  | expired (r : ApprovalRequest) (hstatus : r.status = .pending) :
      RequestStep requestId (some r) (some { r with status := .expired })
  | rejected (r : ApprovalRequest) (hstatus : r.status = .pending) :
      RequestStep requestId (some r) (some { r with status := .rejected })
  | modified (r : ApprovalRequest) (expiresAt : DateTime) (requiredRoles : Finset String)
      (requiredCount : Int) (hstatus : r.status = .pending) (hvotes : r.approvals = [])
      (hcount : ApprovalWorkflow.minimum r.risk ≤ requiredCount) :
      RequestStep requestId (some r) (some { r with expiresAt, requiredRoles, requiredCount })

variable {requestId : String} {r : ApprovalRequest} {risk : RiskLevel}
  {after : Option ApprovalRequest}
  {w : ApprovalWorkflow} {status : ApprovalStatus} {actorId : String}
  {before : Option ApprovalRequest} {requiredRoles : Finset String} {expiresAt : DateTime}
  {requiredCount : Int} {role : String}

/-- A call that stores at most one request makes a step under every id, if
it makes one under the id it stores at. -/
theorem requestStep_store (h : RequestStep requestId (w.requests.get? requestId) (some r))
    (id : String) :
    RequestStep id (w.requests.get? id) ((w.store requestId r).requests.get? id) := by
  rw [store_requests_get?]
  split
  · rename_i heq; subst heq; exact h
  · exact .same _

theorem create_step (w : ApprovalWorkflow) (request : NewRequest) (id : String) :
    RequestStep id (w.requests.get? id) ((w.create request.val).2.requests.get? id) := by
  obtain ⟨r, hstatus, hvotes⟩ := request
  unfold create
  split
  · exact .same _
  rename_i hcount
  split
  · exact .same _
  split
  · split <;> exact .same _
  rename_i hnone
  refine requestStep_store ?_ id
  rw [hnone]
  exact .created r rfl hstatus hvotes (Int.not_lt.mp hcount)

theorem approve_step (w : ApprovalWorkflow) (requestId actorId role : String) (now : DateTime)
    (id : String) :
    RequestStep id (w.requests.get? id)
      ((w.approve requestId actorId role now).2.requests.get? id) := by
  unfold approve
  split
  · exact .same _
  rename_i r hget
  split
  · exact .same _
  rename_i hstatus
  have hpending : r.status = .pending := Classical.not_not.mp hstatus
  split
  · exact .same _
  · exact requestStep_store (hget ▸ .expired r hpending) id
  · split
    · exact .same _
    rename_i hactor
    split
    · exact .same _
    rename_i hrole
    split
    · exact .same _
    rename_i hnew
    refine requestStep_store ?_ id
    rw [hget]
    refine .voted r actorId role hpending hactor (Classical.not_not.mp hrole) ?_
    simpa using hnew

theorem reject_step (w : ApprovalWorkflow) (requestId id : String) :
    RequestStep id (w.requests.get? id) ((w.reject requestId).2.requests.get? id) := by
  unfold reject
  split
  · exact .same _
  rename_i r hget
  split
  · exact .same _
  split
  · exact .same _
  · rename_i hstatus
    exact requestStep_store (hget ▸ .rejected r (Classical.not_not.mp hstatus)) id

theorem validateModification_ok {requestedBy : String}
    {voteCount : Nat}
    (h : validateModification status requestedBy actorId risk expiresAt
      requiredRoles requiredCount voteCount = .ok ()) :
    status = .pending ∧ voteCount = 0 ∧ actorId = requestedBy ∧ minimum risk ≤ requiredCount := by
  unfold validateModification at h
  split at h
  · simp at h
  rename_i hopen
  split at h
  · simp at h
  rename_i hactor
  split at h
  · simp at h
  · rename_i hcount
    simp only [not_or, Classical.not_not] at hopen hactor hcount
    exact ⟨hopen.1, hopen.2, hactor, by omega⟩

theorem modify_step (w : ApprovalWorkflow) (requestId actorId : String) (expiresAt : DateTime)
    (requiredRoles : Finset String) (requiredCount : Int) (id : String) :
    RequestStep id (w.requests.get? id)
      ((w.modify requestId actorId expiresAt requiredRoles requiredCount).2.requests.get? id) := by
  unfold ApprovalWorkflow.modify
  split
  · exact .same _
  rename_i r hget
  split
  · exact .same _
  rename_i hvalid
  obtain ⟨hstatus, hvotes, -, hcount⟩ := validateModification_ok hvalid
  refine requestStep_store ?_ id
  rw [hget]
  exact .modified r _ _ _ hstatus (length_eq_zero_iff.mp hvotes) hcount

/-- Every call makes a step under every id. -/
theorem step_requestStep (w : ApprovalWorkflow) (op : WorkflowOp) (id : String) :
    RequestStep id (w.requests.get? id) ((w.step op).requests.get? id) := by
  cases op with
  | create request => exact create_step w request id
  | approve requestId actorId role now => exact approve_step w requestId actorId role now id
  | reject requestId => exact reject_step w requestId id
  | modify requestId actorId expiresAt requiredRoles requiredCount =>
    exact modify_step w requestId actorId expiresAt requiredRoles requiredCount id

/-! ## The quorum invariant -/

/-- The invariant of one stored request. -/
structure Quorum (r : ApprovalRequest) : Prop where
  voters_nodup : (r.approvals.map Prod.fst).Nodup
  voter_ne_requester : ∀ vote ∈ r.approvals, vote.1 ≠ r.requestedBy
  vote_role : ∀ vote ∈ r.approvals, vote.2 ∈ r.requiredRoles
  minimum_le : ApprovalWorkflow.minimum r.risk ≤ r.requiredCount
  approved_iff :
    r.status = .approved ↔ r.approvals ≠ [] ∧ r.requiredCount ≤ r.approvals.length

/-- What is stored under an id, if anything, carries that id and has its
quorum. -/
def StoredQuorum (requestId : String) (stored : Option ApprovalRequest) : Prop :=
  ∀ r, stored = some r → r.id = requestId ∧ Quorum r

theorem Quorum.vote (hq : Quorum r) (hactor : actorId ≠ r.requestedBy)
    (hrole : role ∈ r.requiredRoles) (hnew : actorId ∉ r.approvals.map Prod.fst) :
    Quorum { r with
      approvals := r.approvals ++ [(actorId, role)]
      status := if r.requiredCount ≤ (r.approvals ++ [(actorId, role)]).length
        then .approved else .pending } where
  voters_nodup := by
    simp only [map_append, map_cons, map_nil]
    exact nodup_append.mpr ⟨hq.voters_nodup, by simp, by
      intro a ha b hb hab
      rw [mem_singleton.mp hb] at hab
      exact hnew (hab ▸ ha)⟩
  voter_ne_requester := by
    intro vote hmem
    rcases mem_append.mp hmem with hold | hnew'
    · exact hq.voter_ne_requester vote hold
    · rw [mem_singleton.mp hnew']; exact hactor
  vote_role := by
    intro vote hmem
    rcases mem_append.mp hmem with hold | hnew'
    · exact hq.vote_role vote hold
    · rw [mem_singleton.mp hnew']; exact hrole
  minimum_le := hq.minimum_le
  approved_iff := by
    by_cases hcount : r.requiredCount ≤ (r.approvals ++ [(actorId, role)]).length
    · simp only [if_pos hcount, true_iff]
      exact ⟨by simp, hcount⟩
    · simp only [if_neg hcount]
      exact ⟨fun h => absurd h (by decide), fun h => absurd h.2 hcount⟩

/-- A request that leaves PENDING without a vote has too few votes to be
APPROVED. -/
theorem Quorum.close (hq : Quorum r) (hstatus : r.status = .pending) (hne : status ≠ .approved) :
    Quorum { r with status } where
  voters_nodup := hq.voters_nodup
  voter_ne_requester := hq.voter_ne_requester
  vote_role := hq.vote_role
  minimum_le := hq.minimum_le
  approved_iff := by
    have hnot : r.status ≠ .approved := by simp [hstatus]
    exact ⟨fun h => absurd h hne, fun h => absurd (hq.approved_iff.mpr h) hnot⟩

theorem RequestStep.quorum
    (h : RequestStep requestId before after) (hq : StoredQuorum requestId before) :
    StoredQuorum requestId after := by
  cases h with
  | same => exact hq
  | created r hid hstatus hvotes hcount =>
    rintro _ ⟨⟩
    exact ⟨hid, by simp [hvotes], by simp [hvotes], by simp [hvotes], hcount,
      by simp [hstatus, hvotes]⟩
  | voted r actorId role hstatus hactor hrole hnew =>
    obtain ⟨hid, hr⟩ := hq r rfl
    rintro _ ⟨⟩
    exact ⟨hid, hr.vote hactor hrole hnew⟩
  | expired r hstatus | rejected r hstatus =>
    obtain ⟨hid, hr⟩ := hq r rfl
    rintro _ ⟨⟩
    exact ⟨hid, hr.close hstatus (by decide)⟩
  | modified r expiresAt requiredRoles requiredCount hstatus hvotes hcount =>
    obtain ⟨hid, -⟩ := hq r rfl
    rintro _ ⟨⟩
    exact ⟨hid, by simp [hvotes], by simp [hvotes], by simp [hvotes], hcount,
      by simp [hstatus, hvotes]⟩

/-- What is stored under an id has no more votes than it asks for, one vote
apart: the first vote is counted whatever the request asks for. -/
def StoredVotes (stored : Option ApprovalRequest) : Prop :=
  ∀ r, stored = some r → (r.approvals.length : Int) ≤ max 1 r.requiredCount

/-- One call casts at most one vote, and only on a request that is short of
votes. -/
theorem RequestStep.votes (h : RequestStep requestId before after)
    (hq : StoredQuorum requestId before) (hv : StoredVotes before) : StoredVotes after := by
  cases h with
  | same => exact hv
  | created r _ _ hvotes | modified r _ _ _ _ hvotes =>
    rintro _ ⟨⟩
    simp [hvotes]
  | voted r actorId role hstatus =>
    obtain ⟨-, hr⟩ := hq r rfl
    rintro _ ⟨⟩
    have hshort : ¬ (r.approvals ≠ [] ∧ r.requiredCount ≤ r.approvals.length) := by
      rw [← hr.approved_iff, hstatus]
      decide
    rw [not_and_or, not_not, Int.not_le] at hshort
    simp only [length_append, length_singleton, Int.natCast_add]
    rcases hshort with hnone | hfew
    · simp [hnone]
    · omega
  | expired r _ | rejected r _ =>
    rintro _ ⟨⟩
    exact hv r rfl

theorem RequestStep.final (h : RequestStep requestId (some r) after)
    (hfinal : r.status ≠ .pending) : after = some r := by
  cases h with
  | same => rfl
  | voted _ _ _ hstatus | expired _ hstatus | rejected _ hstatus | modified _ _ _ _ hstatus =>
    exact absurd hstatus hfinal

/-! ## What the workflow accepts -/

namespace ApprovalWorkflow

/-- The request asks for the votes its risk needs, names roles if it asks for
any vote, and its id is free, or has been given to an equal request. -/
structure Accepts (w : ApprovalWorkflow) (request : ApprovalRequest) : Prop where
  count : minimum request.risk ≤ request.requiredCount
  roles : 0 < request.requiredCount → request.requiredRoles ≠ ∅
  unclaimed : ∀ existing, w.requests.get? request.id = some existing → existing = request

variable {w : ApprovalWorkflow} {request : ApprovalRequest}

theorem Accepts.create (h : w.Accepts request) :
    (w.create request).1 = .ok () ∧
      (w.create request).2.requests.get? request.id = some request := by
  unfold ApprovalWorkflow.create
  rw [if_neg (Int.not_lt.mpr h.count), if_neg fun hroles => h.roles hroles.1 hroles.2]
  split
  · rename_i existing hexisting
    cases h.unclaimed existing hexisting
    rw [if_pos rfl]
    exact ⟨rfl, hexisting⟩
  · exact ⟨rfl, by simp⟩

theorem create_of_not_accepts (h : ¬ w.Accepts request) :
    ∃ e, w.create request = (.error e, w) := by
  unfold create
  split
  · exact ⟨_, rfl⟩
  rename_i hcount
  split
  · exact ⟨_, rfl⟩
  rename_i hroles
  split
  · rename_i existing hexisting
    rw [if_neg]
    · exact ⟨_, rfl⟩
    · rintro rfl
      refine h ⟨Int.not_lt.mp hcount, fun hpos hempty => hroles ⟨hpos, hempty⟩, ?_⟩
      intro other hother
      exact Option.some.inj (hother.symm.trans hexisting)
  · rename_i hnone
    refine absurd ⟨Int.not_lt.mp hcount, fun hpos hempty => hroles ⟨hpos, hempty⟩, ?_⟩ h
    intro other hother
    cases hother.symm.trans hnone

end ApprovalWorkflow

/-! ## Approvals that get decided -/

section

variable {w : ApprovalWorkflow} {id : String} {r : ApprovalRequest}

theorem create_approved {request : ApprovalRequest} (hnew : request.status = .pending)
    (hget : (w.create request).2.requests.get? id = some r) (hstatus : r.status = .approved) :
    w.requests.get? id = some r := by
  unfold create at hget
  split at hget
  · exact hget
  split at hget
  · exact hget
  split at hget
  · split at hget <;> exact hget
  rw [store_requests_get?] at hget
  split at hget
  · cases hget
    simp [hnew] at hstatus
  · exact hget

theorem reject_approved (hget : (w.reject requestId).2.requests.get? id = some r)
    (hstatus : r.status = .approved) : w.requests.get? id = some r := by
  unfold reject at hget
  split at hget
  · exact hget
  split at hget
  · exact hget
  split at hget
  · exact hget
  rw [store_requests_get?] at hget
  split at hget
  · cases hget
    simp at hstatus
  · exact hget

variable {actorId : String}

theorem modify_approved
    (hget : (w.modify requestId actorId expiresAt requiredRoles requiredCount).2.requests.get? id =
      some r) (hstatus : r.status = .approved) : w.requests.get? id = some r := by
  unfold ApprovalWorkflow.modify at hget
  split at hget
  · exact hget
  split at hget
  · exact hget
  rename_i hvalid
  rw [store_requests_get?] at hget
  split at hget
  · cases hget
    simp [(validateModification_ok hvalid).1] at hstatus
  · exact hget

/-- A vote decides the approval it is cast on, if it is the last that was
missing. -/
theorem approve_decides {now : DateTime}
    (hget : (w.approve requestId actorId role now).2.requests.get? id = some r)
    (hstatus : r.status = .approved) :
    w.requests.get? id = some r ∨
      (id = requestId ∧ (w.approve requestId actorId role now).1 = .ok r ∧
        ∃ request, w.requests.get? id = some request ∧ request.status = .pending ∧
          request.requiredCount ≤ request.approvals.length + 1 ∧ r.planId = request.planId) := by
  cases hrequest : w.requests.get? requestId with
  | none =>
    rw [approve, hrequest] at hget
    exact .inl hget
  | some request =>
    simp only [approve, hrequest] at hget ⊢
    split at hget
    · exact .inl hget
    rename_i hpending
    split at hget
    · exact .inl hget
    · rw [store_requests_get?] at hget
      split at hget
      · cases hget
        simp at hstatus
      · exact .inl hget
    · split at hget
      · exact .inl hget
      split at hget
      · exact .inl hget
      split at hget
      · exact .inl hget
      rw [store_requests_get?] at hget
      split at hget
      · rename_i hid
        subst hid
        cases hget
        refine .inr ⟨rfl, ?_, request, hrequest, not_not.mp hpending, ?_, rfl⟩
        · simp [*]
        · simpa using hstatus
      · exact .inl hget

end

/-! ## Whole runs -/

theorem run_quorum (ops : List WorkflowOp) (requestId : String) :
    StoredQuorum requestId
      ((run step .empty ops).requests.get? requestId) := by
  refine run_invariant
    (P := fun w : ApprovalWorkflow => StoredQuorum requestId (w.requests.get? requestId))
    (fun w op h => (step_requestStep w op requestId).quorum h) ops .empty ?_
  intro r hr
  simp [empty] at hr

/-- After every sequence of calls no stored request has a vote too many. -/
theorem run_votes (ops : List WorkflowOp) (requestId : String) :
    StoredVotes ((run step .empty ops).requests.get? requestId) := by
  have hboth := run_invariant
    (P := fun w : ApprovalWorkflow => StoredQuorum requestId (w.requests.get? requestId) ∧
      StoredVotes (w.requests.get? requestId))
    (fun w op h => ⟨(step_requestStep w op requestId).quorum h.1,
      (step_requestStep w op requestId).votes h.1 h.2⟩) ops .empty
  refine (hboth ⟨?_, ?_⟩).2 <;>
  · intro r hr
    simp [empty] at hr

/-- A final request is the same after every further sequence of calls. -/
theorem run_final (hget : w.requests.get? requestId = some r) (hfinal : r.status ≠ .pending)
    (later : List WorkflowOp) : (run step w later).requests.get? requestId = some r := by
  refine run_invariant
    (P := fun w : ApprovalWorkflow => w.requests.get? requestId = some r)
    (fun w op h => ?_) later w hget
  have hstep := step_requestStep w op requestId
  rw [h] at hstep
  exact hstep.final hfinal

theorem two_le_minimum (h : RiskLevel.L3 ≤ risk) : minimum risk = 2 := if_pos h

theorem one_le_minimum (h : RiskLevel.L2 ≤ risk) : 1 ≤ minimum risk := by
  unfold ApprovalWorkflow.minimum
  split <;> simp_all

/-- **Quorum and finality.** After every sequence of calls, a stored request
has votes of pairwise distinct actors other than its requester, each in a
required role; asks for at least as many votes as its risk does; is APPROVED
exactly when it has at least one vote and as many as it asks for; and never
changes again once it is not PENDING. -/
theorem stored_request_quorum_final (ops : List WorkflowOp) (requestId : String)
    (r : ApprovalRequest)
    (hget : (run ApprovalWorkflow.step .empty ops).requests.get? requestId = some r) :
    (r.approvals.map Prod.fst).Nodup ∧
    (∀ vote ∈ r.approvals, vote.1 ≠ r.requestedBy) ∧
    (∀ vote ∈ r.approvals, vote.2 ∈ r.requiredRoles) ∧
    (RiskLevel.L3 ≤ r.risk → 2 ≤ r.requiredCount) ∧
    (r.risk = .L2 → 1 ≤ r.requiredCount) ∧
    (r.status = .approved ↔ 1 ≤ r.approvals.length ∧ r.requiredCount ≤ r.approvals.length) ∧
    (r.status ∈ [ApprovalStatus.approved, .rejected, .expired] → ∀ later : List WorkflowOp,
      (run ApprovalWorkflow.step (run ApprovalWorkflow.step .empty ops) later).requests.get?
        requestId = some r) := by
  obtain ⟨-, hq⟩ := run_quorum ops requestId r hget
  have hmin := hq.minimum_le
  refine ⟨hq.voters_nodup, hq.voter_ne_requester, hq.vote_role, ?_, ?_, ?_, ?_⟩
  · intro hrisk
    rw [two_le_minimum hrisk] at hmin
    exact hmin
  · intro hrisk
    have hone : 1 ≤ minimum r.risk := one_le_minimum (by rw [hrisk]; decide)
    omega
  · rw [hq.approved_iff, ← length_pos_iff]
    exact Iff.rfl
  · intro hstatus later
    refine run_final hget ?_ later
    intro hpending
    simp [hpending] at hstatus

/-- Two operators approve a risk-L3 request of a third actor. -/
def quorumOps : List WorkflowOp :=
  [.create ⟨{ id := "approval-1", planId := "plan-1", tenantId := "tenant-1", risk := .L3,
              requestedBy := "alice", expiresAt := .aware 100, requiredRoles := {"operator"},
              requiredCount := 2 }, rfl, rfl⟩,
   .approve "approval-1" "bob" "operator" (.aware 1),
   .approve "approval-1" "carol" "operator" (.aware 2)]

/-- The stored request at the end of `quorumOps`. -/
def quorumRequest : ApprovalRequest where
  id := "approval-1"
  planId := "plan-1"
  tenantId := "tenant-1"
  risk := .L3
  requestedBy := "alice"
  expiresAt := .aware 100
  requiredRoles := {"operator"}
  requiredCount := 2
  approvals := [("bob", "operator"), ("carol", "operator")]
  status := .approved

theorem stored_request_quorum_final_quorumOps :
    (run ApprovalWorkflow.step .empty quorumOps).requests.get? "approval-1" = some quorumRequest ∧
    2 ≤ quorumRequest.requiredCount ∧
    ∀ later : List WorkflowOp,
      (run ApprovalWorkflow.step (run ApprovalWorkflow.step .empty quorumOps) later).requests.get?
        "approval-1" = some quorumRequest := by
  have hget : (run step .empty quorumOps).requests.get? "approval-1" =
      some quorumRequest := by decide +kernel
  obtain ⟨-, -, -, hcount, -, -, hfinal⟩ :=
    stored_request_quorum_final quorumOps "approval-1" quorumRequest hget
  exact ⟨hget, hcount (by decide), hfinal (by decide)⟩

end ComputeWeaver.Approval
