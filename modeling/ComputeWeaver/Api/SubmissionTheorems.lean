/-
Api.SubmissionTheorems — when `submit_plan_approval` does all of
its work or none.

The callback writes to two stores, the plan first. The put can refuse, and then
nothing has happened; but what the workflow asks of an approval
(`ApprovalWorkflow.Accepts`) is only looked at afterwards, so a submission with
too few votes for its risk, with no roles, or under an approval id that is
taken raises with the plan pending already, and the approval it names does not
exist or is another one.

A repeated call is the other half. The idempotency record of an operation holds
its version and the submission, not the plan: a call that reuses the key of a
submission of another plan is answered with that plan's response and leaves its
own plan as it was.
-/
import ComputeWeaver.Api.GovernanceTheorems
import ComputeWeaver.Api.StoreTheorems

namespace ComputeWeaver.Api

open Lib Risk Approval Persistence GovernanceApi ResourceStore Option

/-! ## What a submission should do -/

section

variable (api : GovernanceApi)

def Awaiting (g : Governed) (planId : String) : Prop :=
  ∃ plan approvalId request, api.planAt g planId = some plan ∧
    GovernanceApi.stateIs plan.body "pending_approval" ∧
    GovernanceApi.namesApproval plan.body approvalId ∧
    g.workflow.requests.get? approvalId = some request ∧ request.status = .pending

/-- A call that raises leaves the plan and the approvals as they were; one
that returns for a plan of risk L2 or above leaves it awaiting its approval. -/
structure AllOrNothing (planId : String) (g : Governed)
    (out : Except PyError Response × Governed) : Prop where
  raised : ∀ e, out.1 = .error e →
    api.planAt out.2 planId = api.planAt g planId ∧ out.2.workflow = g.workflow
  returned : ∀ response plan risk, out.1 = .ok response → api.planAt g planId = some plan →
    api.riskOf plan.body = .ok risk → RiskLevel.L2 ≤ risk → Awaiting api out.2 planId

def GovernanceApi.pendingArgs (context : ApiContext) (planId : String) (current : StoredResource)
    (request : ApprovalRequest) : PutArgs :=
  api.planArgs context planId current.body
    [("state", .str "pending_approval"), ("approval_id", .str request.id)] context.ifMatch

/-- The `execute_once` call of a submission. -/
def GovernanceApi.submitCall (context : ApiContext) (submission : ApprovalSubmission)
    (version : Int) : OperationArgs :=
  ⟨api.tenantId, context.idempotencyKey, "plan.submit_approval",
    ("version", .int version) :: GovernanceApi.submissionDocument submission⟩

/-- What the callback needs on a plan of risk L2 or above. Once it passes its
own checks it puts the plan: under a new key the workflow has to accept the
approval, and under a key that replays this very put, which writes nothing,
the workflow has to refuse it. -/
structure Carried (context : ApiContext) (planId : String) (current : StoredResource)
    (request : ApprovalRequest) (g : Governed) : Prop where
  accepted : g.store.idempotency.get? (api.tenantId, context.idempotencyKey ++ ":plan") = none →
    g.workflow.Accepts request
  replayed : ∀ resource,
    g.store.idempotency.get? (api.tenantId, context.idempotencyKey ++ ":plan") =
      some ((api.pendingArgs context planId current request).requestHash api.env, resource) →
    ¬ g.workflow.Accepts request

/-- What a submission of a stored plan of risk L2 or above needs: if its key
has the record of a submission of the same version, the plan is awaiting its
approval already; and if its callback runs, it is `Carried`. -/
structure Whole (context : ApiContext) (planId : String) (submission : ApprovalSubmission)
    (x : ApiState) (current : StoredResource) (risk : RiskLevel) : Prop where
  answered : ∀ response, x.operations.get? (api.tenantId, context.idempotencyKey) =
      some ("plan.submit_approval",
        (api.submitCall context submission current.version).digest api.env, response) →
    Awaiting api x.governed planId
  carried : x.operations.get? (api.tenantId, context.idempotencyKey) = none →
    context.ifMatch = some current.etag → GovernanceApi.stateIs current.body "validated" →
      Carried api context planId current
        (api.submittedRequest context planId submission risk current.version) x.governed

/-! ## The callback -/

variable {api} {context : ApiContext} {planId : String} {current : StoredResource}
  {request : ApprovalRequest} {g : Governed}

theorem AllOrNothing.of_error (e : PyError) : AllOrNothing api planId g (.error e, g) where
  raised := fun _ _ => ⟨rfl, rfl⟩
  returned := fun _ _ _ h => by cases h

theorem requireIfMatch_eq_ok :
    requireIfMatch context current = .ok () ↔ context.ifMatch = some current.etag := by
  unfold requireIfMatch
  cases context.ifMatch with
  | none => simp
  | some etag => simp

theorem submit_refused (h : ¬ (context.ifMatch = some current.etag ∧
    stateIs current.body "validated")) :
    ∃ e, api.submit context planId current request g = (.error e, g) := by
  cases hcase : api.storeSubmitted context planId current request g with
  | error e => exact ⟨e, by simp only [submit, hcase]⟩
  | ok out =>
    obtain ⟨_, hmatch, hrest⟩ := bind_eq_ok.mp hcase
    simp only [except_throw] at hrest
    split at hrest
    · cases hrest
    · rename_i hstate
      exact absurd ⟨requireIfMatch_eq_ok.mp hmatch, by simpa using hstate⟩ h

section

variable (hrisk : RiskLevel.L2 ≤ request.risk) (hmatch : context.ifMatch = some current.etag)
  (hstate : GovernanceApi.stateIs current.body "validated")

include hrisk hmatch hstate

theorem storeSubmitted_eq :
    api.storeSubmitted context planId current request g = (do
      let (updated, store) ← g.store.put api.env (api.pendingArgs context planId current request)
      pure (updated,
        { g with store, submittedBy := g.submittedBy.set planId context.actorId })) := by
  unfold storeSubmitted
  simp only [requireIfMatch_eq_ok.mpr hmatch, hstate, if_pos hrisk, ok_bind, Bool.not_true,
    Bool.false_eq_true, if_false, except_pure]
  rfl

section

variable {updated : StoredResource} {store : ResourceStore}
  (hput : g.store.put api.env (api.pendingArgs context planId current request) =
    .ok (updated, store))
include hput

theorem submit_of_put :
    api.submit context planId current request g =
      ((g.workflow.create request).1.map fun _ => .submission updated (some request),
        ⟨store, (g.workflow.create request).2, g.submittedBy.set planId context.actorId⟩) := by
  simp only [submit, storeSubmitted_eq hrisk hmatch hstate, hput, ok_bind,
    except_pure, if_pos hrisk]

theorem submit_accepted (haccepts : g.workflow.Accepts request) :
    ∃ workflow submittedBy, workflow.requests.get? request.id = some request ∧
      api.submit context planId current request g =
        (.ok (.submission updated (some request)), ⟨store, workflow, submittedBy⟩) := by
  obtain ⟨hok, hstored⟩ := haccepts.create
  refine ⟨_, g.submittedBy.set planId context.actorId, hstored, ?_⟩
  rw [submit_of_put hrisk hmatch hstate hput, hok]
  rfl

theorem submit_not_accepted (haccepts : ¬ g.workflow.Accepts request) :
    ∃ e submittedBy, api.submit context planId current request g =
      (.error e, ⟨store, g.workflow, submittedBy⟩) := by
  obtain ⟨e, hcreate⟩ := ApprovalWorkflow.create_of_not_accepts haccepts
  refine ⟨e, g.submittedBy.set planId context.actorId, ?_⟩
  rw [submit_of_put hrisk hmatch hstate hput, hcreate]
  rfl

end

end

theorem pendingArgs_approval_id :
    assocGet (api.pendingArgs context planId current request).normalized "approval_id" =
      some (.str request.id) := by
  rw [PutArgs.normalized, assocGet_docWith, if_neg (by decide)]
  simp [pendingArgs, planArgs, docUpdate, assocGet_docWith]

section

variable (hrisk : RiskLevel.L2 ≤ request.risk) (hmatch : context.ifMatch = some current.etag)
  (hstate : GovernanceApi.stateIs current.body "validated")
  (hcurrent : api.planAt g planId = some current)

include hrisk hmatch hstate hcurrent

theorem submit_fresh_iff (hnew : request.status = .pending)
    (hkey : g.store.idempotency.get? (api.tenantId, context.idempotencyKey ++ ":plan") = none) :
    AllOrNothing api planId g (api.submit context planId current request g) ↔
      g.workflow.Accepts request := by
  have hprevious : g.store.items.get? (api.pendingArgs context planId current request).key =
      some current := hcurrent
  obtain ⟨store, hput, hitems⟩ := put_of_new_key api.env
    (api.pendingArgs context planId current request) hkey
    fun previous h => by cases hprevious.symm.trans h; exact hmatch
  have hplan : ∀ workflow submittedBy, api.planAt ⟨store, workflow, submittedBy⟩ planId =
      some (written api.env (api.pendingArgs context planId current request)
        (g.store.items.get? (api.pendingArgs context planId current request).key)) := by
    intro workflow submittedBy
    rw [planAt, hitems]
    exact Dict.get?_set_self _ _ _
  by_cases haccepts : g.workflow.Accepts request
  · obtain ⟨workflow, submittedBy, hstored, hsubmit⟩ :=
      submit_accepted hrisk hmatch hstate hput haccepts
    rw [hsubmit]
    refine iff_of_true ⟨by simp, fun _ _ _ _ _ _ _ =>
      ⟨_, request.id, request, hplan _ _, ?_, ?_, hstored, hnew⟩⟩ haccepts
    · exact stateIs_of_get (planArgs_state (by simp)) "pending_approval"
    · simp [namesApproval, docGetD, written, pendingArgs_approval_id]
  · obtain ⟨e, submittedBy, hsubmit⟩ := submit_not_accepted hrisk hmatch hstate hput haccepts
    rw [hsubmit]
    refine iff_of_false (fun h => ?_) haccepts
    -- the plan has its next version, and the call raised
    have hsame := (hplan _ _).symm.trans ((h.raised e rfl).1.trans hcurrent)
    have hversion := congrArg StoredResource.version (Option.some.inj hsame)
    simp only [written, hprevious] at hversion
    omega

/-- Under a key that replays the put nothing is written, and the workflow must
not accept. -/
theorem submit_replay_iff (hread : api.riskOf current.body = .ok request.risk)
    {recorded : StoredResource}
    (hkey : g.store.idempotency.get? (api.tenantId, context.idempotencyKey ++ ":plan") =
      some ((api.pendingArgs context planId current request).requestHash api.env, recorded)) :
    AllOrNothing api planId g (api.submit context planId current request g) ↔
      ¬ g.workflow.Accepts request := by
  have hput : g.store.put api.env (api.pendingArgs context planId current request) =
      .ok (recorded, g.store) := put_of_same_record hkey
  by_cases haccepts : g.workflow.Accepts request
  · obtain ⟨workflow, submittedBy, _, hsubmit⟩ :=
      submit_accepted hrisk hmatch hstate hput haccepts
    rw [hsubmit]
    refine iff_of_false (fun h => ?_) (not_not_intro haccepts)
    -- the call returned, and the plan is still validated
    obtain ⟨plan, _, _, hplan, hpending, _⟩ :=
      h.returned _ current request.risk rfl hcurrent hread hrisk
    cases hcurrent.symm.trans hplan
    exact absurd (stateIs_unique hpending hstate) (by decide)
  · obtain ⟨e, submittedBy, hsubmit⟩ := submit_not_accepted hrisk hmatch hstate hput haccepts
    rw [hsubmit]
    have hplan : api.planAt ⟨g.store, g.workflow, submittedBy⟩ planId = api.planAt g planId := by
      unfold planAt
      rfl
    exact iff_of_true ⟨fun _ _ => ⟨hplan, rfl⟩, fun _ _ _ h => by cases h⟩ haccepts

end

/-- **One callback.** On a stored plan of risk L2 or above it does all or
nothing exactly when, once its own checks pass, it is `Carried`. -/
theorem submit_allOrNothing_iff (hcurrent : api.planAt g planId = some current)
    (hread : api.riskOf current.body = .ok request.risk) (hrisk : RiskLevel.L2 ≤ request.risk)
    (hnew : request.status = .pending) :
    AllOrNothing api planId g (api.submit context planId current request g) ↔
      (context.ifMatch = some current.etag →
        stateIs current.body "validated" → Carried api context planId current request g) := by
  by_cases hchecks : context.ifMatch = some current.etag ∧ stateIs current.body "validated"
  · obtain ⟨hmatch, hstate⟩ := hchecks
    rw [forall_prop_of_true hmatch, forall_prop_of_true hstate]
    cases hkey : g.store.idempotency.get? (api.tenantId, context.idempotencyKey ++ ":plan") with
    | none =>
      rw [submit_fresh_iff hrisk hmatch hstate hcurrent hnew hkey]
      refine ⟨fun haccepts => ⟨fun _ => haccepts, ?_⟩, fun h => h.accepted hkey⟩
      intro resource h
      cases hkey.symm.trans h
    | some record =>
      obtain ⟨hash, recorded⟩ := record
      by_cases hhash : (api.pendingArgs context planId current request).requestHash api.env = hash
      · subst hhash
        rw [submit_replay_iff hrisk hmatch hstate hcurrent hread hkey]
        refine ⟨fun hrefused => ⟨?_, fun _ _ => hrefused⟩, fun h => h.replayed recorded hkey⟩
        intro h
        cases hkey.symm.trans h
      · refine iff_of_true ?_ ⟨?_, ?_⟩
        · obtain ⟨e, hput⟩ := put_of_other_record hkey hhash
          simp only [submit, storeSubmitted_eq hrisk hmatch hstate, hput, error_bind]
          exact .of_error e
        · intro h
          cases hkey.symm.trans h
        · intro resource h
          cases hkey.symm.trans h
          exact absurd rfl hhash
  · obtain ⟨e, hrefused⟩ := @submit_refused api context planId current request g hchecks
    rw [hrefused]
    exact ⟨fun _ hmatch hstate => absurd ⟨hmatch, hstate⟩ hchecks, fun _ => .of_error e⟩

/-! ## The request -/

variable {submission : ApprovalSubmission} {now : Int} {x : ApiState} {risk : RiskLevel}
  {e : PyError} {callback : Governed → Except PyError Response × Governed} {operation : String}
  {intent : Document}

theorem submitPlanApproval_unread
    (h : ¬ ∃ current risk, checkExpiry submission now = .ok () ∧
      api.planAt x.governed planId = some current ∧ api.riskOf current.body = .ok risk) :
    ∃ e, api.submitPlanApproval context planId submission now x = (.error e, x) := by
  unfold submitPlanApproval
  split
  · exact ⟨_, rfl⟩
  rename_i current risk hread
  obtain ⟨_, hexpiry, hread⟩ := bind_eq_ok.mp hread
  obtain ⟨_, hget, hread⟩ := bind_eq_ok.mp hread
  obtain ⟨_, hrisk, hread⟩ := bind_eq_ok.mp hread
  cases hread
  exact absurd ⟨current, risk, hexpiry, planAt_of_get hget, hrisk⟩ h

theorem submit_low_risk (hrisk : ¬ RiskLevel.L2 ≤ request.risk)
    (h : (api.submit context planId current request g).1 = .error e) :
    (api.submit context planId current request g).2 = g := by
  unfold submit at h ⊢
  split
  · rfl
  rename_i updated g' hstored
  rw [hstored] at h
  simp only [if_neg hrisk] at h
  cases h

/-- The operation's record decides whether the callback runs. -/
theorem audited_allOrNothing_iff
    (hoperation : operation ≠ "") (hcurrent : api.planAt x.governed planId = some current)
    (hread : api.riskOf current.body = .ok risk) (hrisk : RiskLevel.L2 ≤ risk) :
    AllOrNothing api planId x.governed
        ((api.auditedOperation context operation intent callback x).1,
          (api.auditedOperation context operation intent callback x).2.governed) ↔
      (api.tenantId ≠ "" →
        (∀ response, x.operations.get? (api.tenantId, context.idempotencyKey) =
          some (operation, api.env.digest (.dict intent), response) →
            Awaiting api x.governed planId) ∧
        (x.operations.get? (api.tenantId, context.idempotencyKey) = none →
          AllOrNothing api planId x.governed (callback x.governed))) := by
  unfold auditedOperation executeMemory OperationArgs.check
  by_cases htenant : api.tenantId = ""
  · simp only [htenant, true_or, if_true, except_throw]
    exact iff_of_true (.of_error _) fun h => absurd rfl h
  have hkey : ¬ context.idempotencyKey.length < 8 := Nat.not_lt.mpr context.key_length
  simp only [htenant, hkey, hoperation, false_or, if_false, except_pure, ne_eq,
    not_false_eq_true, forall_true_left]
  cases hrecord : x.operations.get? (api.tenantId, context.idempotencyKey) with
  | none =>
    cases hcallback : callback x.governed with
    | mk outcome g' => cases outcome <;> simp
  | some record =>
    obtain ⟨recorded, digest, response⟩ := record
    dsimp only
    split
    · rename_i hother
      refine iff_of_true (.of_error _) ⟨?_, by simp⟩
      intro response' h
      cases h
      simp [OperationArgs.digest] at hother
    · rename_i hsame
      rw [not_or, not_not, not_not] at hsame
      obtain ⟨rfl, rfl⟩ := hsame
      refine ⟨fun h => ⟨fun _ _ => h.returned response current risk rfl hcurrent hread hrisk,
        by simp⟩, fun h => ⟨by simp, fun _ _ _ _ _ _ _ => h.1 response rfl⟩⟩

/-- A callback that changes nothing when it raises makes an operation of that
kind. -/
theorem audited_raised
    (hcallback : ∀ e, (callback x.governed).1 = .error e → (callback x.governed).2 = x.governed)
    (h : (api.auditedOperation context operation intent callback x).1 = .error e) :
    (api.auditedOperation context operation intent callback x).2.governed = x.governed := by
  rcases executeMemory_raised h with hsame | hraised
  · exact hsame
  · rw [hraised] at hcallback
    exact hcallback e rfl

/-- **Main result.** In every state, a call of `submit_plan_approval` does all
or nothing exactly when the plan is of risk below L2 or not stored, the expiry
is not in the future, or the call is `Whole`. -/
theorem submitPlanApproval_allOrNothing_iff (api : GovernanceApi) (context : ApiContext)
    (planId : String) (submission : ApprovalSubmission) (now : Int) (x : ApiState) :
    AllOrNothing api planId x.governed
        ((api.submitPlanApproval context planId submission now x).1,
          (api.submitPlanApproval context planId submission now x).2.governed) ↔
      ∀ current risk, GovernanceApi.checkExpiry submission now = .ok () →
        api.planAt x.governed planId = some current → api.riskOf current.body = .ok risk →
          RiskLevel.L2 ≤ risk → api.tenantId ≠ "" →
            Whole api context planId submission x current risk := by
  by_cases hreads : ∃ current risk, checkExpiry submission now = .ok () ∧
      api.planAt x.governed planId = some current ∧ api.riskOf current.body = .ok risk
  · obtain ⟨current, risk, hexpiry, hcurrent, hread⟩ := hreads
    have hget : x.governed.store.get "plan" planId api.tenantId = .ok current :=
      Dict.getItem_eq_ok.mpr hcurrent
    simp only [submitPlanApproval, hexpiry, hget, hread, ok_bind, except_pure]
    by_cases hrisk : RiskLevel.L2 ≤ risk
    · rw [audited_allOrNothing_iff (by decide) hcurrent hread hrisk,
        submit_allOrNothing_iff hcurrent hread hrisk rfl]
      constructor
      · rintro h current' risk' - hcurrent' hread' - htenant
        cases hcurrent.symm.trans hcurrent'
        cases hread.symm.trans hread'
        exact ⟨(h htenant).1, (h htenant).2⟩
      · intro h htenant
        have hwhole := h current risk trivial hcurrent hread hrisk htenant
        exact ⟨hwhole.answered, hwhole.carried⟩
    · refine iff_of_true ⟨fun e he => ?_, fun _ plan risk' _ hplan hread' hrisk' => ?_⟩ ?_
      · rw [audited_raised (fun e => submit_low_risk hrisk) he]
        exact ⟨rfl, rfl⟩
      · cases hcurrent.symm.trans hplan
        cases hread.symm.trans hread'
        exact absurd hrisk' hrisk
      · intro current' risk' _ hcurrent' hread' hrisk'
        cases hcurrent.symm.trans hcurrent'
        cases hread.symm.trans hread'
        exact absurd hrisk' hrisk
  · obtain ⟨e, hraised⟩ := @submitPlanApproval_unread api context planId submission now x hreads
    rw [hraised]
    refine iff_of_true (.of_error e) ?_
    intro current risk hexpiry hcurrent hread
    exact absurd ⟨current, risk, hexpiry, hcurrent, hread⟩ hreads

end

/-- The plan of `submissionOps`, of risk L3, before its submission. -/
def validatedState : ApiState := run (ApiState.step sampleApi) .empty (submissionOps.take 2)

def submitContext : ApiContext := operator "alice" "submit-1" (some "++") (by decide)

/-- Its submission with two votes to get is accepted. -/
theorem submitPlanApproval_allOrNothing_iff_validatedState :
    AllOrNothing sampleApi "plan-1" validatedState.governed
      ((sampleApi.submitPlanApproval submitContext "plan-1" ⟨.aware dayAfter, {"operator"}, 2⟩
          newYear validatedState).1,
        (sampleApi.submitPlanApproval submitContext "plan-1" ⟨.aware dayAfter, {"operator"}, 2⟩
          newYear validatedState).2.governed) := by
  refine (submitPlanApproval_allOrNothing_iff sampleApi submitContext "plan-1"
    ⟨.aware dayAfter, {"operator"}, 2⟩ newYear validatedState).mpr ?_
  have hkeys : (validatedState.operations.get? ("tenant-one", "submit-1")).isNone ∧
      (validatedState.governed.store.idempotency.get?
        ("tenant-one", "submit-1:plan")).isNone := by decide +kernel
  have hempty : validatedState.governed.workflow.requests.entries = [] := by decide +kernel
  obtain ⟨hkey, hplanKey⟩ := hkeys
  intro current risk _ _ _ _ _
  refine ⟨fun response h => ?_, fun _ _ _ => ⟨fun _ => ⟨?_, ?_, ?_⟩, fun resource h => ?_⟩⟩
  · cases (isNone_iff_eq_none.mp hkey).symm.trans h
  · have hminimum : ApprovalWorkflow.minimum risk ≤ 2 := by cases risk <;> decide
    exact hminimum
  · intro _
    simp [submittedRequest]
  · intro existing h
    have hmem := Dict.mem_entries_iff.mpr h
    rw [hempty] at hmem
    cases hmem
  · cases (isNone_iff_eq_none.mp hplanKey).symm.trans h

/-- Its submission with one vote to get. -/
def shortSubmission : Except PyError Response × ApiState :=
  sampleApi.submitPlanApproval submitContext "plan-1" ⟨.aware dayAfter, {"operator"}, 1⟩ newYear
    validatedState

/-- One vote is too few for the risk. The call raises, and the plan, validated
before, is pending under an approval that does not exist. -/
theorem short_submission_leaves_plan_pending :
    ∃ before after,
      sampleApi.planAt validatedState.governed "plan-1" = some before ∧
      GovernanceApi.stateIs before.body "validated" ∧
      shortSubmission.1 = .error (.valueError "approval count below risk minimum") ∧
      sampleApi.planAt shortSubmission.2.governed "plan-1" = some after ∧
      GovernanceApi.stateIs after.body "pending_approval" ∧
      GovernanceApi.namesApproval after.body "approval-plan-1-3" ∧
      shortSubmission.2.governed.workflow.requests.get? "approval-plan-1-3" = none := by
  have hbefore : (sampleApi.planAt validatedState.governed "plan-1").any
      (fun plan => stateIs plan.body "validated") = true := by decide +kernel
  have hafter : (sampleApi.planAt shortSubmission.2.governed "plan-1").any
      (fun plan => stateIs plan.body "pending_approval" &&
        namesApproval plan.body "approval-plan-1-3") = true ∧
      shortSubmission.2.governed.workflow.requests.get? "approval-plan-1-3" = none := by
    decide +kernel
  have hraised : shortSubmission.1 = .error (.valueError "approval count below risk minimum") := by
    rfl
  obtain ⟨before, hbefore, hvalidated⟩ := (any_eq_true _ _).mp hbefore
  obtain ⟨hafter, hnone⟩ := hafter
  obtain ⟨after, hafter, hfacts⟩ := (any_eq_true _ _).mp hafter
  obtain ⟨hpending, hnames⟩ := Bool.and_eq_true_iff.mp hfacts
  exact ⟨before, after, hbefore, hvalidated, hraised, hafter, hpending, hnames, hnone⟩

end ComputeWeaver.Api
