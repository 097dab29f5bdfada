/-
Api.GovernanceTheorems — who has approved an approved plan.

`Handled` says what one request can do, and `Effect` what follows from it for
the approvals (`RequestStep`, from the workflow) and for each stored plan
(`PlanStep`). A plan of high risk
becomes approved in one way only: some approval that names it gets its last
vote. Nothing in that step looks at the `approval_id` of the plan, so ANY
approval that names the plan will do: one created through `POST
/v1/approvals` for a low risk and a single vote, or one left over from an
earlier submission. `OwnApproval` is the check that is missing there.
-/
import Mathlib.Data.Finset.Card
import ComputeWeaver.Api.Governance
import ComputeWeaver.Approval.WorkflowTheorems
import ComputeWeaver.Persistence.OperationsTheorems

namespace ComputeWeaver.Api

open Lib Risk Approval Persistence GovernanceApi ApiState

/-! ## Stored plans -/

section

variable (api : GovernanceApi)

def GovernanceApi.planAt (g : Governed) (planId : String) : Option StoredResource :=
  g.store.items.get? (api.tenantId, "plan", planId)

def GovernanceApi.highRisk (body : Document) : Bool :=
  match api.riskOf body with
  | .ok risk => decide (RiskLevel.L3 ≤ risk)
  | .error _ => false

def GovernanceApi.namesApproval (body : Document) (approvalId : String) : Bool :=
  (docGetD body "approval_id" .none).isStr approvalId

def ApprovedHigh (plan : StoredResource) : Prop :=
  GovernanceApi.stateIs plan.body "approved" ∧ api.highRisk plan.body

variable {api}
  {g : Governed} {body : Document} {s : String}

theorem planAt_of_get {planId : String} {plan : StoredResource}
    (h : g.store.get "plan" planId api.tenantId = .ok plan) : api.planAt g planId = some plan :=
  Dict.getItem_eq_ok.mp h

theorem stateIs_of_get (h : assocGet body "state" = some (.str s)) (state : String) :
    stateIs body state = decide (s = state) := by
  simp [stateIs, docGetD, h]

theorem stateIs_unique {s' : String} (h : stateIs body s) (h' : stateIs body s') : s = s' := by
  unfold stateIs Value.isStr at h h'
  split at h
  · rename_i text hvalue
    rw [hvalue] at h'
    exact (of_decide_eq_true h).symm.trans (of_decide_eq_true h')
  · cases h

theorem riskOf_congr {body' : Document} (h : assocGet body "risk" = assocGet body' "risk") :
    api.riskOf body = api.riskOf body' := by
  simp only [riskOf, docItem, h]

theorem planAt_put {args : PutArgs} {resource : StoredResource} {store : ResourceStore}
    (hkind : args.kind = "plan") (htenant : args.tenantId = api.tenantId)
    (h : g.store.put api.env args = .ok (resource, store)) (planId : String) :
    api.planAt { g with store } planId = api.planAt g planId ∨
      (planId = args.resourceId ∧ ∃ plan, api.planAt { g with store } planId = some plan ∧
        plan.body = args.normalized) := by
  cases ResourceStore.put_effect h with
  | replayed => exact .inl rfl
  | stored =>
    by_cases hid : planId = args.resourceId
    · refine .inr ⟨hid, ResourceStore.written api.env args (g.store.items.get? args.key), ?_, rfl⟩
      have hkey : args.key = (api.tenantId, "plan", planId) := by
        rw [PutArgs.key, hkind, htenant, hid]
      rw [planAt, ← hkey]
      exact Dict.get?_set_self _ _ _
    · refine .inl (Dict.get?_set_ne _ _ ?_)
      intro heq
      exact hid (Prod.mk.inj (Prod.mk.inj heq).2).2.symm

section

variable {context : ApiContext} {planId : String} {body rest : Document} {s : String}
  {ifMatch : Option String}

theorem planArgs_state (h : "state" ∉ rest.map Prod.fst) :
    assocGet (api.planArgs context planId body (("state", .str s) :: rest) ifMatch).normalized
      "state" = some (.str s) := by
  rw [PutArgs.normalized, assocGet_docWith, if_neg (by decide)]
  exact assocGet_docUpdate_head h

theorem planArgs_other {fields : Document} {key : String} (h : key ∉ fields.map Prod.fst)
    (hid : key ≠ "id") :
    assocGet (api.planArgs context planId body fields ifMatch).normalized key =
      assocGet body key := by
  rw [PutArgs.normalized, assocGet_docWith, if_neg (Ne.symm hid)]
  refine (assocGet_docUpdate_of_not_mem h).trans ?_
  rw [assocGet_docWithout, if_neg (Ne.symm hid)]

end

end

/-! ## What a request does -/

/-- What a request can do: nothing, or what its callback does once it runs. -/
inductive Handled (api : GovernanceApi) (g : Governed) : ApiOp → Governed → Prop
  | nothing (op : ApiOp) : Handled api g op g
  | created (context : ApiContext) (id : String) (data body : Document)
      (resource : StoredResource) (store : ResourceStore)
      (hbody : api.planData context data = .ok body)
      (hput : g.store.put api.env
        { kind := "plan", resourceId := id, tenantId := api.tenantId, body
          idempotencyKey := context.idempotencyKey, ifMatch := context.ifMatch } =
        .ok (resource, store)) :
      Handled api g (.createPlan context id data) { g with store }
  | validated (context : ApiContext) (planId : String) (now : Int)
      (current resource : StoredResource) (store : ResourceStore)
      (hcurrent : api.planAt g planId = some current)
      (hdraft : GovernanceApi.stateIs current.body "draft")
      (hput : g.store.put api.env (api.planArgs context planId current.body
        [("state", .str "validated"), ("validated_at", .time (.aware now)),
          ("validated_by", .str context.actorId)] context.ifMatch) = .ok (resource, store)) :
      Handled api g (.validatePlan context planId now) { g with store }
  | submitted (context : ApiContext) (planId : String) (submission : ApprovalSubmission)
      (now : Int) (current resource : StoredResource) (store : ResourceStore)
      (request : ApprovalRequest) (workflow : ApprovalWorkflow)
      (hcurrent : api.planAt g planId = some current)
      (hvalidated : GovernanceApi.stateIs current.body "validated")
      (hrisk : api.riskOf current.body = .ok request.risk)
      (hnew : request.status = .pending ∧ request.approvals = [])
      (hput : g.store.put api.env (api.planArgs context planId current.body
        (if RiskLevel.L2 ≤ request.risk then
          [("state", .str "pending_approval"), ("approval_id", .str request.id)]
        else [("state", .str "approved"), ("approval_id", .none)]) context.ifMatch) =
        .ok (resource, store))
      (hworkflow : workflow = g.workflow ∨ workflow = (g.workflow.create request).2) :
      Handled api g (.submitPlanApproval context planId submission now)
        ⟨store, workflow, g.submittedBy.set planId context.actorId⟩
  | requested (context : ApiContext) (id : String) (data : Document) (request : ApprovalRequest)
      (hnew : request.status = .pending ∧ request.approvals = []) :
      Handled api g (.createApproval context id data)
        { g with workflow := (g.workflow.create request).2 }
  | modified (context : ApiContext) (approvalId : String) (submission : ApprovalSubmission)
      (now : Int) :
      Handled api g (.modifyApproval context approvalId submission now)
        { g with workflow := (g.workflow.modify approvalId context.actorId submission.expiresAt
            submission.requiredRoles submission.requiredCount).2 }
  | rejected (context : ApiContext) (approvalId : String) (data : Document) (now : Int) :
      Handled api g (.rejectRequest context approvalId data now)
        { g with workflow := (g.workflow.reject approvalId).2 }
  | planRejected (context : ApiContext) (approvalId : String) (data : Document) (now : Int)
      (planId : String) (current resource : StoredResource) (store : ResourceStore)
      (hcurrent : api.planAt g planId = some current)
      (hpending : GovernanceApi.stateIs current.body "pending_approval")
      (hput : g.store.put api.env (api.planArgs context planId current.body
        [("state", .str "rejected"), ("rejected_at", .time (.aware now))] (some current.etag)) =
        .ok (resource, store)) :
      Handled api g (.rejectRequest context approvalId data now)
        { g with store, workflow := (g.workflow.reject approvalId).2 }
  /-- a vote that decides nothing, or whose plan cannot follow it -/
  | voted (context : ApiContext) (approvalId : String) (data : Document) (role : String)
      (now : DateTime)
      (hstays : ∀ approval current,
        (g.workflow.approve approvalId context.actorId role now).1 = .ok approval →
        approval.status = .approved → api.planAt g approval.planId = some current →
        GovernanceApi.stateIs current.body "pending_approval" →
        ∃ e, g.store.put api.env (api.planArgs context approval.planId current.body
          [("state", .str "approved"), ("approved_at", .time now)] (some current.etag)) =
          .error e) :
      Handled api g (.approveRequest context approvalId data)
        { g with workflow := (g.workflow.approve approvalId context.actorId role now).2 }
  | planApproved (context : ApiContext) (approvalId : String) (data : Document) (role : String)
      (now : DateTime) (approval : ApprovalRequest) (workflow : ApprovalWorkflow)
      (current resource : StoredResource) (store : ResourceStore)
      (happrove : g.workflow.approve approvalId context.actorId role now = (.ok approval, workflow))
      (hstatus : approval.status = .approved)
      (hcurrent : api.planAt g approval.planId = some current)
      (hpending : GovernanceApi.stateIs current.body "pending_approval")
      (hput : g.store.put api.env (api.planArgs context approval.planId current.body
        [("state", .str "approved"), ("approved_at", .time now)] (some current.etag)) =
        .ok (resource, store)) :
      Handled api g (.approveRequest context approvalId data) { g with store, workflow }

section

variable {api : GovernanceApi} {g : Governed} {op : ApiOp}

/-- Requests go through the idempotency table: the callback runs or nothing
happens. -/
theorem audited_governed (api : GovernanceApi) (context : ApiContext) (operation : String)
    (intent : Document) (callback : Governed → Except PyError Response × Governed) (x : ApiState) :
    (api.auditedOperation context operation intent callback x).2.governed = x.governed ∨
      (api.auditedOperation context operation intent callback x).2.governed =
        (callback x.governed).2 :=
  (executeMemory_state api.env _ callback x.operations x.governed).imp_right And.right

theorem Handled.audited {context : ApiContext} {operation : String} {intent : Document}
    {callback : Governed → Except PyError Response × Governed} {x : ApiState}
    (h : Handled api x.governed op (callback x.governed).2) :
    Handled api x.governed op
      (api.auditedOperation context operation intent callback x).2.governed := by
  rcases audited_governed api context operation intent callback x with hsame | hran
  · rw [hsame]
    exact .nothing op
  · rwa [hran]

theorem Handled.atomically {body : Except PyError (Response × Governed)}
    (h : ∀ response g', body = .ok (response, g') → Handled api g op g') :
    Handled api g op (atomically g body).2 := by
  unfold Api.atomically
  split
  · rename_i response g'
    exact h response g' rfl
  · exact .nothing op

variable (context : ApiContext)

theorem createPlan_handled (id : String) (data : Document) (x : ApiState) :
    Handled api x.governed (.createPlan context id data)
      (api.createPlan context id data x).2.governed := by
  refine Handled.atomically (g := x.governed) ?_
  intro response g' h
  obtain ⟨body, hbody, h⟩ := bind_eq_ok.mp h
  obtain ⟨_, _, h⟩ := bind_eq_ok.mp h
  obtain ⟨⟨resource, store⟩, hput, h⟩ := bind_eq_ok.mp h
  cases h
  exact .created context id data body resource store hbody hput

theorem validatePlan_handled (planId : String) (now : Int) (x : ApiState) :
    Handled api x.governed (.validatePlan context planId now)
      (api.validatePlan context planId now x).2.governed := by
  unfold validatePlan
  split
  · exact .nothing _
  rename_i current hget
  refine Handled.audited (Handled.atomically ?_)
  intro response g' h
  obtain ⟨_, _, h⟩ := bind_eq_ok.mp h
  simp only [except_throw] at h
  split at h
  · cases h
  rename_i hdraft
  split at h
  · cases h
  split at h
  · cases h
  obtain ⟨⟨updated, store⟩, hput, h⟩ := bind_eq_ok.mp h
  cases h
  exact .validated context planId now current updated store (planAt_of_get hget)
    (by simpa using hdraft) hput

/-- The callback of a submission does nothing, or puts the plan and then turns
to the workflow. -/
theorem submit_cases (api : GovernanceApi) (context : ApiContext) (planId : String)
    (current : StoredResource) (request : ApprovalRequest) (g : Governed) :
    (api.submit context planId current request g).2 = g ∨
    ∃ resource store workflow, stateIs current.body "validated" ∧
      g.store.put api.env (api.planArgs context planId current.body
        (if RiskLevel.L2 ≤ request.risk then
          [("state", .str "pending_approval"), ("approval_id", .str request.id)]
        else [("state", .str "approved"), ("approval_id", .none)]) context.ifMatch) =
        .ok (resource, store) ∧
      (workflow = g.workflow ∨ workflow = (g.workflow.create request).2) ∧
      (api.submit context planId current request g).2 =
        ⟨store, workflow, g.submittedBy.set planId context.actorId⟩ := by
  unfold submit
  split
  · exact .inl rfl
  rename_i updated g' hstored
  obtain ⟨_, _, h⟩ := bind_eq_ok.mp hstored
  simp only [except_throw] at h
  split at h
  · cases h
  rename_i hstate
  obtain ⟨⟨resource, store⟩, hput, h⟩ := bind_eq_ok.mp h
  cases h
  have hvalidated : stateIs current.body "validated" := by simpa using hstate
  refine .inr ⟨resource, store,
    if RiskLevel.L2 ≤ request.risk then (g.workflow.create request).2 else g.workflow,
    hvalidated, hput, ?_, ?_⟩
  · split
    · exact .inr rfl
    · exact .inl rfl
  · split <;> rfl

/-- The request reads the plan and its risk first. -/
theorem submitPlanApproval_cases (api : GovernanceApi) (context : ApiContext) (planId : String)
    (submission : ApprovalSubmission) (now : Int) (x : ApiState) :
    (api.submitPlanApproval context planId submission now x).2.governed = x.governed ∨
    ∃ current risk, api.planAt x.governed planId = some current ∧
      api.riskOf current.body = .ok risk ∧
      (api.submitPlanApproval context planId submission now x).2.governed =
        (api.submit context planId current
          (api.submittedRequest context planId submission risk current.version) x.governed).2 := by
  unfold submitPlanApproval
  split
  · exact .inl rfl
  rename_i current risk hread
  obtain ⟨_, _, h⟩ := bind_eq_ok.mp hread
  obtain ⟨_, hget, h⟩ := bind_eq_ok.mp h
  obtain ⟨_, hrisk, h⟩ := bind_eq_ok.mp h
  cases h
  exact (audited_governed _ _ _ _ _ x).imp_right fun hran =>
    ⟨current, risk, planAt_of_get hget, hrisk, hran⟩

theorem submitPlanApproval_handled (planId : String)
    (submission : ApprovalSubmission) (now : Int) (x : ApiState) :
    Handled api x.governed (.submitPlanApproval context planId submission now)
      (api.submitPlanApproval context planId submission now x).2.governed := by
  rcases submitPlanApproval_cases api context planId submission now x with
    hsame | ⟨current, risk, hcurrent, hrisk, hran⟩
  · rw [hsame]
    exact .nothing _
  rw [hran]
  rcases submit_cases api context planId current
    (api.submittedRequest context planId submission risk current.version) x.governed with
    hsame | ⟨resource, store, workflow, hvalidated, hput, hworkflow, hafter⟩
  · rw [hsame]
    exact .nothing _
  · rw [hafter]
    exact .submitted context planId submission now current resource store _ workflow
      hcurrent hvalidated hrisk ⟨rfl, rfl⟩ hput hworkflow

theorem createApproval_handled (id : String) (data : Document) (x : ApiState) :
    Handled api x.governed (.createApproval context id data)
      (api.createApproval context id data x).2.governed := by
  unfold createApproval
  split
  · exact .nothing _
  rename_i request hrequest
  refine Handled.audited (.requested context id data request ?_)
  iterate 8 obtain ⟨_, _, hrequest⟩ := bind_eq_ok.mp hrequest
  cases hrequest
  exact ⟨rfl, rfl⟩

theorem modifyApproval_handled (approvalId : String)
    (submission : ApprovalSubmission) (now : Int) (x : ApiState) :
    Handled api x.governed (.modifyApproval context approvalId submission now)
      (api.modifyApproval context approvalId submission now x).2.governed := by
  unfold modifyApproval
  split
  · exact .nothing _
  · exact Handled.audited (.modified context approvalId submission now)

/-- What the end of `approve` and `reject` does. -/
theorem movePlan_cases (approval : ApprovalRequest) (fields : Document) (g : Governed) :
    ((api.movePlan context approval fields g).2 = g ∧
      ∀ current, api.planAt g approval.planId = some current →
        stateIs current.body "pending_approval" →
        ∃ e, g.store.put api.env
          (api.planArgs context approval.planId current.body fields (some current.etag)) =
            .error e) ∨
    ∃ current resource store, api.planAt g approval.planId = some current ∧
      stateIs current.body "pending_approval" ∧
      g.store.put api.env
        (api.planArgs context approval.planId current.body fields (some current.etag)) =
          .ok (resource, store) ∧
      (api.movePlan context approval fields g).2 = { g with store } := by
  unfold movePlan
  cases hget : g.store.get "plan" approval.planId api.tenantId with
  | error e =>
    refine .inl ⟨rfl, fun current hcurrent => ?_⟩
    cases hget.symm.trans (Dict.getItem_eq_ok.mpr hcurrent)
  | ok plan =>
    have hplan := planAt_of_get hget
    dsimp only
    split
    · rename_i hpending
      cases hput : g.store.put api.env
          (api.planArgs context approval.planId plan.body fields (some plan.etag)) with
      | error e =>
        refine .inl ⟨rfl, fun current hcurrent _ => ?_⟩
        cases hplan.symm.trans hcurrent
        exact ⟨e, hput⟩
      | ok out =>
        obtain ⟨resource, store⟩ := out
        exact .inr ⟨plan, resource, store, hplan, hpending, hput, rfl⟩
    · rename_i hpending
      refine .inl ⟨rfl, fun current hcurrent hstate => ?_⟩
      cases hplan.symm.trans hcurrent
      exact absurd hstate hpending

theorem rejectRequest_handled (approvalId : String) (data : Document) (now : Int) (x : ApiState) :
    Handled api x.governed (.rejectRequest context approvalId data now)
      (api.rejectRequest context approvalId data now x).2.governed := by
  refine Handled.audited ?_
  have hrejected : Handled api x.governed (.rejectRequest context approvalId data now)
      { x.governed with workflow := (x.governed.workflow.reject approvalId).2 } :=
    .rejected context approvalId data now
  unfold reject
  split
  · exact .nothing _
  split
  · exact .nothing _
  split
  · rename_i workflow hreject
    rwa [hreject] at hrejected
  rename_i rejected workflow hreject
  rcases movePlan_cases context rejected [("state", .str "rejected"),
    ("rejected_at", .time (.aware now))] { x.governed with workflow } with
    ⟨hsame, _⟩ | ⟨plan, resource, store, hplan, hpending, hput, hmoved⟩
  · rw [hsame]
    rwa [hreject] at hrejected
  have hmove := Handled.planRejected (g := x.governed) context approvalId data now
    rejected.planId plan resource store hplan hpending hput
  rw [hmoved]
  rwa [hreject] at hmove

theorem approveRequest_handled (approvalId : String) (data : Document) (x : ApiState) :
    Handled api x.governed (.approveRequest context approvalId data)
      (api.approveRequest context approvalId data x).2.governed := by
  unfold approveRequest
  split
  · exact .nothing _
  rename_i role _
  split
  · exact .nothing _
  refine Handled.audited ?_
  unfold approve
  split
  · exact .nothing _
  rename_i now _
  have hvoted := @Handled.voted api x.governed context approvalId data
    (api.env.str role) now
  cases happrove : x.governed.workflow.approve approvalId context.actorId (api.env.str role)
      now with
  | mk outcome workflow =>
    rw [happrove] at hvoted
    cases outcome with
    | error e => exact hvoted fun _ _ h => by cases h
    | ok approval =>
      dsimp only
      split
      · rename_i hstatus
        rcases movePlan_cases context approval [("state", .str "approved"),
          ("approved_at", .time now)] { x.governed with workflow } with
          ⟨hsame, hstays⟩ | ⟨current, resource, store, hcurrent, hpending, hput, hmoved⟩
        · rw [hsame]
          refine hvoted ?_
          intro approval' current happroval' _ hcurrent hpending
          cases happroval'
          exact hstays current hcurrent hpending
        · rw [hmoved]
          exact .planApproved context approvalId data (api.env.str role) now approval workflow
            current resource store happrove hstatus hcurrent hpending hput
      · rename_i hstatus
        exact hvoted fun _ _ h h' => by cases h; exact absurd h' hstatus

end

theorem step_handled (api : GovernanceApi) (x : ApiState) (op : ApiOp) :
    Handled api x.governed op (x.step api op).governed := by
  cases op with
  | createPlan context id data => exact createPlan_handled context id data x
  | validatePlan context planId now => exact validatePlan_handled context planId now x
  | submitPlanApproval context planId submission now =>
    exact submitPlanApproval_handled context planId submission now x
  | createApproval context id data => exact createApproval_handled context id data x
  | approveRequest context approvalId data => exact approveRequest_handled context approvalId data x
  | rejectRequest context approvalId data now =>
    exact rejectRequest_handled context approvalId data now x
  | modifyApproval context approvalId submission now =>
    exact modifyApproval_handled context approvalId submission now x

/-! ## Approvals and plans after a request -/

inductive PlanStep (api : GovernanceApi) (g : Governed) (op : ApiOp) (planId : String)
    (g' : Governed) : Prop
  | same (hplan : api.planAt g' planId = api.planAt g planId)
      (hsubmitter : g'.submittedBy.get? planId = g.submittedBy.get? planId)
  | inactive (hplan : ∀ plan, api.planAt g' planId = some plan → ¬ ApprovedHigh api plan)
  | approved (context : ApiContext) (approvalId : String) (data : Document)
      (request request' : ApprovalRequest) (current plan : StoredResource)
      (hop : op = .approveRequest context approvalId data)
      (hrequest : g.workflow.requests.get? approvalId = some request)
      (hplanId : request.planId = planId)
      (hcurrent : api.planAt g planId = some current)
      (hpending : GovernanceApi.stateIs current.body "pending_approval")
      (hrequest' : g'.workflow.requests.get? approvalId = some request')
      (hstatus : request'.status = .approved)
      (hrequester : request'.requestedBy = request.requestedBy)
      (hcount : request'.requiredCount = request.requiredCount)
      (hplan : api.planAt g' planId = some plan)
      (hrisk : assocGet plan.body "risk" = assocGet current.body "risk")
      (hname : assocGet plan.body "approval_id" = assocGet current.body "approval_id")
      (hsubmitter : g'.submittedBy.get? planId = g.submittedBy.get? planId)

/-- What a request does to the approvals and to the plans. -/
structure Effect (api : GovernanceApi) (g : Governed) (op : ApiOp) (g' : Governed) : Prop where
  requests : ∀ id, RequestStep id (g.workflow.requests.get? id) (g'.workflow.requests.get? id)
  plans : ∀ planId, PlanStep api g op planId g'

section

variable {api : GovernanceApi} {g : Governed} {op : ApiOp}

theorem Effect.workflow {workflow : ApprovalWorkflow}
    (h : ∀ id, RequestStep id (g.workflow.requests.get? id) (workflow.requests.get? id)) :
    Effect api g op { g with workflow } where
  requests := h
  plans := fun _ => .same rfl rfl

theorem Effect.write {args : PutArgs} {resource : StoredResource} {store : ResourceStore}
    {workflow : ApprovalWorkflow}
    (hstep : ∀ id, RequestStep id (g.workflow.requests.get? id) (workflow.requests.get? id))
    (hkind : args.kind = "plan") (htenant : args.tenantId = api.tenantId)
    (h : g.store.put api.env args = .ok (resource, store)) {s : String}
    (hstate : assocGet args.normalized "state" = some (.str s)) (hne : s ≠ "approved") :
    Effect api g op { g with store, workflow } where
  requests := hstep
  plans := by
    intro planId
    rcases planAt_put hkind htenant h planId with hsame | ⟨_, plan, hplan, hbody⟩
    · exact .same hsame rfl
    refine .inactive ?_
    intro plan' hplan' happroved
    cases hplan.symm.trans hplan'
    have happroved := happroved.1
    rw [hbody, stateIs_of_get hstate] at happroved
    exact hne (of_decide_eq_true happroved)

variable {context : ApiContext}

theorem planData_state {data body : Document} (h : api.planData context data = .ok body) :
    assocGet body "state" = some (.str "draft") := by
  -- the fields are read one after another
  iterate 5 obtain ⟨_, _, h⟩ := bind_eq_ok.mp h
  simp only [except_throw] at h
  split at h
  · cases h
  · cases h
    simp [assocGet_docWith]

/-- The plan that a submission leaves is the validated one still, or its next
version: pending, or of a risk too low to matter. -/
theorem submitted_inactive {planId : String} {current resource : StoredResource}
    {store : ResourceStore} {risk : RiskLevel} {approvalId : Value}
    (hcurrent : api.planAt g planId = some current) (hrisk : api.riskOf current.body = .ok risk)
    (hvalidated : stateIs current.body "validated")
    (hput : g.store.put api.env (api.planArgs context planId current.body
      (if RiskLevel.L2 ≤ risk then [("state", .str "pending_approval"), ("approval_id", approvalId)]
        else [("state", .str "approved"), ("approval_id", .none)]) context.ifMatch) =
      .ok (resource, store)) (plan : StoredResource)
    (hplan : api.planAt { g with store } planId = some plan) : ¬ ApprovedHigh api plan := by
  intro happroved
  rcases planAt_put rfl rfl hput planId with hsame | ⟨_, plan', hplan', hbody⟩
  · cases (hsame.trans hcurrent).symm.trans hplan
    exact absurd (stateIs_unique happroved.1 hvalidated) (by decide)
  cases hplan'.symm.trans hplan
  obtain ⟨happrovedState, hhigh⟩ := happroved
  rw [hbody] at happrovedState hhigh
  by_cases hlevel : RiskLevel.L2 ≤ risk
  · simp only [if_pos hlevel] at happrovedState
    rw [stateIs_of_get (planArgs_state (by simp))] at happrovedState
    exact absurd (of_decide_eq_true happrovedState) (by decide)
  simp only [if_neg hlevel] at hhigh
  rw [highRisk, (riskOf_congr (planArgs_other (by simp) (by decide))).trans hrisk] at hhigh
  exact hlevel (RiskLevel.L2_le_of_L3_le (of_decide_eq_true hhigh))

/-- An approval that a vote completes is stored, with its requirements as
they were. -/
theorem approve_approved {w w' : ApprovalWorkflow} {approvalId actorId role : String}
    {now : DateTime} {approval : ApprovalRequest}
    (h : w.approve approvalId actorId role now = (.ok approval, w'))
    (hstatus : approval.status = .approved) :
    ∃ request, w.requests.get? approvalId = some request ∧
      w'.requests.get? approvalId = some approval ∧ approval.planId = request.planId ∧
      approval.requestedBy = request.requestedBy ∧
      approval.requiredCount = request.requiredCount := by
  unfold ApprovalWorkflow.approve at h
  split at h
  · cases h
  rename_i request hget
  split at h
  · cases h
  rename_i hpending
  split at h
  · cases h
  · cases h
  · split at h
    · cases h
    split at h
    · cases h
    split at h
    · cases h
      exact absurd hstatus fun hne => hpending (by simp [hne])
    · cases h
      exact ⟨request, hget, by simp, rfl, rfl, rfl⟩

theorem Handled.effect {g' : Governed} (h : Handled api g op g') : Effect api g op g' := by
  cases h with
  | nothing => exact .workflow fun _ => .same _
  | created context id data body resource store hbody hput =>
    refine Effect.write (fun _ => .same _) rfl rfl hput (s := "draft") ?_ (by decide)
    rw [PutArgs.normalized, assocGet_docWith, if_neg (by decide)]
    exact planData_state hbody
  | validated context planId now current resource store hcurrent hdraft hput =>
    exact Effect.write (fun _ => .same _) rfl rfl hput (planArgs_state (by simp)) (by decide)
  | submitted context planId submission now current resource store request workflow hcurrent
      hvalidated hrisk hnew hput hworkflow =>
    refine ⟨?_, fun id => ?_⟩
    · intro id
      rcases hworkflow with rfl | rfl
      · exact .same _
      · exact create_step g.workflow ⟨request, hnew⟩ id
    · -- only the submitted plan changes, and who submitted it
      by_cases hid : id = planId
      · subst hid
        exact .inactive (submitted_inactive hcurrent hrisk hvalidated hput)
      refine .same ?_ (Dict.get?_set_ne _ _ (Ne.symm hid))
      rcases planAt_put rfl rfl hput id with hsame | ⟨hself, _⟩
      · exact hsame
      · exact absurd hself hid
  | requested context id data request hnew =>
    exact .workflow fun id => create_step g.workflow ⟨request, hnew⟩ id
  | modified context approvalId submission now =>
    exact .workflow fun id => modify_step _ _ _ _ _ _ id
  | rejected context approvalId data now => exact .workflow (reject_step g.workflow approvalId)
  | planRejected context approvalId data now planId current resource store hcurrent hpending hput =>
    exact Effect.write (reject_step g.workflow approvalId) rfl rfl hput (planArgs_state (by simp))
      (by decide)
  | voted context approvalId data role now hstays =>
    exact .workflow (approve_step g.workflow approvalId context.actorId role now)
  | planApproved context approvalId data role now approval workflow current resource store
      happrove hstatus hcurrent hpending hput =>
    obtain ⟨request, hrequest, hrequest', hplanId, hrequester, hcount⟩ :=
      approve_approved happrove hstatus
    have hstep := approve_step g.workflow approvalId context.actorId role now
    rw [happrove] at hstep
    refine ⟨hstep, fun planId => ?_⟩
    rcases planAt_put rfl rfl hput planId with hsame | ⟨hid, plan, hplan, hbody⟩
    · exact .same hsame rfl
    have hid : planId = approval.planId := hid
    subst hid
    refine .approved context approvalId data request approval current plan rfl hrequest
      hplanId.symm hcurrent hpending hrequest' hstatus hrequester hcount hplan ?_ ?_ rfl
    · rw [hbody]
      exact planArgs_other (by simp) (by decide)
    · rw [hbody]
      exact planArgs_other (by simp) (by decide)

end

/-! ## The invariant -/

section

variable (api : GovernanceApi)

/-- The approval that the plan names is APPROVED, with votes of two actors at
least, none of them the one who submitted the plan. -/
def ProperlyApproved (g : Governed) (planId : String) (plan : StoredResource) : Prop :=
  ∃ approvalId request submitter,
    GovernanceApi.namesApproval plan.body approvalId ∧
    g.workflow.requests.get? approvalId = some request ∧ request.status = .approved ∧
    g.submittedBy.get? planId = some submitter ∧
    2 ≤ (request.approvals.map Prod.fst).toFinset.card ∧
    ∀ vote ∈ request.approvals, vote.1 ≠ submitter

/-- A pending plan of high risk that an approval names has it as its own:
requested by the plan's submitter, and with two votes to get at least. -/
def OwnVote (g : Governed) (approvalId : String) : Prop :=
  ∀ request ∈ g.workflow.requests.get? approvalId, ∀ plan ∈ api.planAt g request.planId,
    GovernanceApi.stateIs plan.body "pending_approval" → api.highRisk plan.body →
      GovernanceApi.namesApproval plan.body approvalId ∧ 2 ≤ request.requiredCount ∧
        g.submittedBy.get? request.planId = some request.requestedBy

instance (g : Governed) (approvalId : String) : Decidable (OwnVote api g approvalId) := by
  unfold OwnVote
  infer_instance

/-- A vote that could decide over a pending plan of high risk is cast on the
plan's own approval. -/
def OwnApproval (x : ApiState) : ApiOp → Prop
  | .approveRequest _ approvalId _ => OwnVote api x.governed approvalId
  | _ => True

instance (x : ApiState) : (op : ApiOp) → Decidable (OwnApproval api x op)
  | .approveRequest _ approvalId _ =>
      inferInstanceAs (Decidable (OwnVote api x.governed approvalId))
  | .createPlan .. => .isTrue trivial
  | .validatePlan .. => .isTrue trivial
  | .submitPlanApproval .. => .isTrue trivial
  | .createApproval .. => .isTrue trivial
  | .rejectRequest .. => .isTrue trivial
  | .modifyApproval .. => .isTrue trivial

/-- Every stored approval has its quorum, and every approved plan of high risk
the approval it needs. -/
structure Governs (g : Governed) : Prop where
  quorum : ∀ id, StoredQuorum id (g.workflow.requests.get? id)
  plans : ∀ planId plan, api.planAt g planId = some plan → ApprovedHigh api plan →
    ProperlyApproved g planId plan

variable {api}

theorem ProperlyApproved.step {g g' : Governed} {planId : String} {plan : StoredResource}
    (hrequests : ∀ id, RequestStep id (g.workflow.requests.get? id)
      (g'.workflow.requests.get? id))
    (hsubmitter : g'.submittedBy.get? planId = g.submittedBy.get? planId)
    (h : ProperlyApproved g planId plan) : ProperlyApproved g' planId plan := by
  obtain ⟨approvalId, request, submitter, hname, hrequest, hstatus, hby, hvotes, hothers⟩ := h
  have hstep := hrequests approvalId
  rw [hrequest] at hstep
  exact ⟨approvalId, request, submitter, hname, hstep.final (by simp [hstatus]), hstatus,
    hsubmitter.trans hby, hvotes, hothers⟩

theorem Governs.step {x : ApiState} {op : ApiOp} (hown : OwnApproval api x op)
    (h : Governs api x.governed) : Governs api (x.step api op).governed := by
  have heffect := (step_handled api x op).effect
  have hquorum : ∀ id, StoredQuorum id ((x.step api op).governed.workflow.requests.get? id) :=
    fun id => (heffect.requests id).quorum (h.quorum id)
  refine ⟨hquorum, fun planId plan hplan happroved => ?_⟩
  cases heffect.plans planId with
  | same hsame hsubmitter =>
    exact (h.plans planId plan (hsame.symm.trans hplan) happroved).step heffect.requests hsubmitter
  | inactive hinactive => exact absurd happroved (hinactive plan hplan)
  | approved context approvalId data request request' current plan' hop hrequest hplanId hcurrent
      hpending hrequest' hstatus hrequester hcount hplan' hrisk hname hsubmitter =>
    cases hplan.symm.trans hplan'
    subst hop hplanId
    have hhigh : api.highRisk current.body := by
      have happrovedRisk := happroved.2
      unfold highRisk at happrovedRisk ⊢
      rwa [riskOf_congr hrisk] at happrovedRisk
    obtain ⟨hnames, htwo, hby⟩ := hown request hrequest current hcurrent hpending hhigh
    obtain ⟨_, hq⟩ := hquorum approvalId request' hrequest'
    obtain ⟨_, hvotes⟩ := hq.approved_iff.mp hstatus
    refine ⟨approvalId, request', request.requestedBy, ?_, hrequest', hstatus,
      hsubmitter.trans hby, ?_, ?_⟩
    · rw [namesApproval, docGetD, hname]
      exact hnames
    · rw [List.toFinset_card_of_nodup hq.voters_nodup, List.length_map]
      omega
    · intro vote hvote
      exact hrequester ▸ hq.voter_ne_requester vote hvote

/-- **Main result.** After every sequence of requests in which each vote that
could decide over a pending plan of high risk is cast on that plan's own
approval, every stored plan of risk L3 or above that is approved names an
approval that is APPROVED with the votes of at least two actors, none of them
the one who submitted the plan. Every prefix of such a sequence is one, so
this holds at every point of it. -/
theorem approved_plans_have_quorum (api : GovernanceApi) (ops : List ApiOp)
    (hown : Guarded (ApiState.step api) (OwnApproval api) .empty ops) (planId : String)
    (plan : StoredResource)
    (hplan : api.planAt (run (ApiState.step api) .empty ops).governed planId = some plan)
    (hstate : GovernanceApi.stateIs plan.body "approved") (hrisk : api.highRisk plan.body) :
    ProperlyApproved (run (ApiState.step api) .empty ops).governed planId plan := by
  have hempty : Governs api empty.governed :=
    ⟨fun id r hr => by simp [empty, ApprovalWorkflow.empty] at hr,
      fun planId plan hplan => by
        simp [planAt, empty, ResourceStore.empty] at hplan⟩
  have hgoverns := guarded_invariant (P := fun x : ApiState => Governs api x.governed)
    (fun x op hop hx => hx.step hop) ops .empty hown hempty
  exact hgoverns.plans planId plan hplan ⟨hstate, hrisk⟩

end

/-! ## Concrete requests -/

def operator (actorId idempotencyKey : String) (ifMatch : Option String)
    (key_length : 8 ≤ idempotencyKey.length) : ApiContext where
  actorId := actorId
  roles := {"operator"}
  idempotencyKey := idempotencyKey
  ifMatch := ifMatch
  authorized := by decide
  key_length := key_length

def sampleApi : GovernanceApi := ⟨taggingEnv, "tenant-one"⟩

/-- A plan of risk L3 enters approval. -/
def submissionOps : List ApiOp :=
  [.createPlan (operator "alice" "request-1" none (by decide)) "plan-1"
    [("risk", .int 3), ("site_id", .str "site-1"), ("state_version", .int 1),
      ("policy_versions", .list [.str "policy-1"])],
   .validatePlan (operator "alice" "request-2" (some "+") (by decide)) "plan-1" newYear,
   .submitPlanApproval (operator "alice" "request-3" (some "++") (by decide)) "plan-1"
    ⟨.aware dayAfter, {"operator"}, 2⟩ newYear]

def vote (actorId idempotencyKey approvalId : String)
    (key_length : 8 ≤ idempotencyKey.length) : ApiOp :=
  .approveRequest (operator actorId idempotencyKey none key_length) approvalId
    [("role", .str "operator"), ("now", .str "2026-01-01T00:00:00+00:00")]

/-- Two other operators approve it. -/
def approvalOps : List ApiOp :=
  submissionOps ++
    [vote "bob" "request-4" "approval-plan-1-3" (by decide),
     vote "carol" "request-5" "approval-plan-1-3" (by decide)]

theorem approved_plans_have_quorum_approvalOps :
    ∃ plan, sampleApi.planAt (run (ApiState.step sampleApi) .empty approvalOps).governed
        "plan-1" = some plan ∧
      ProperlyApproved (run (ApiState.step sampleApi) .empty approvalOps).governed "plan-1"
        plan := by
  have hrun : Guarded (step sampleApi) (OwnApproval sampleApi) .empty approvalOps ∧
      (sampleApi.planAt (run (step sampleApi) .empty approvalOps).governed
        "plan-1").any (fun plan => stateIs plan.body "approved" &&
          sampleApi.highRisk plan.body) = true := by decide +kernel
  obtain ⟨hown, hplan⟩ := hrun
  obtain ⟨plan, hplan, happroved⟩ := (Option.any_eq_true _ _).mp hplan
  obtain ⟨hstate, hrisk⟩ := Bool.and_eq_true_iff.mp happroved
  exact ⟨plan, hplan,
    approved_plans_have_quorum sampleApi approvalOps hown "plan-1" plan hplan hstate hrisk⟩

/-- A second approval for the same plan, of risk L0 and with one vote to get:
the vote of the plan's own submitter. -/
def sideDoorOps : List ApiOp :=
  submissionOps ++
    [.createApproval (operator "mallory" "request-4" none (by decide)) "side-door"
      [("plan_id", .str "plan-1"), ("risk", .int 0),
        ("expires_at", .str "2026-01-02T00:00:00+00:00"),
        ("required_roles", .list [.str "operator"]), ("required_count", .int 1)],
     vote "alice" "request-5" "side-door" (by decide)]

/-- The plan is approved by the vote of its submitter, while the approval it
names is pending and has no vote. -/
theorem side_door_approves_plan :
    ∃ plan request,
      sampleApi.planAt (run (ApiState.step sampleApi) .empty sideDoorOps).governed "plan-1" =
        some plan ∧
      GovernanceApi.stateIs plan.body "approved" ∧ sampleApi.highRisk plan.body ∧
      GovernanceApi.namesApproval plan.body "approval-plan-1-3" ∧
      (run (ApiState.step sampleApi) .empty sideDoorOps).governed.workflow.requests.get?
        "approval-plan-1-3" = some request ∧
      request.status = .pending ∧ request.approvals = [] ∧
      (run (ApiState.step sampleApi) .empty sideDoorOps).governed.submittedBy.get? "plan-1" =
        some "alice" := by
  -- one evaluation of the run for all three facts
  have hrun : (sampleApi.planAt (run (step sampleApi) .empty sideDoorOps).governed
        "plan-1").any (fun plan => stateIs plan.body "approved" &&
          sampleApi.highRisk plan.body && namesApproval plan.body
            "approval-plan-1-3") = true ∧
      ((run (step sampleApi) .empty sideDoorOps).governed.workflow.requests.get?
        "approval-plan-1-3").any (fun request =>
          decide (request.status = .pending ∧ request.approvals = [])) = true ∧
      (run (step sampleApi) .empty sideDoorOps).governed.submittedBy.get? "plan-1" =
        some "alice" := by decide +kernel
  obtain ⟨hplan, hrequest, hsubmitter⟩ := hrun
  obtain ⟨plan, hplan, hfacts⟩ := (Option.any_eq_true _ _).mp hplan
  obtain ⟨request, hrequest, hpending⟩ := (Option.any_eq_true _ _).mp hrequest
  obtain ⟨happroved, hname⟩ := Bool.and_eq_true_iff.mp hfacts
  obtain ⟨hstate, hrisk⟩ := Bool.and_eq_true_iff.mp happroved
  obtain ⟨hstatus, hvotes⟩ := of_decide_eq_true hpending
  exact ⟨plan, request, hplan, hstate, hrisk, hname, hrequest, hstatus, hvotes, hsubmitter⟩

end ComputeWeaver.Api
