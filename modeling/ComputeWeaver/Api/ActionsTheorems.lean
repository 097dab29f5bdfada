/-
Api.ActionsTheorems — what an executed action rests on.

The guard decides from the body of the request. An action whose body says risk
L0 is executed without any approval, whatever risk the plan it names is stored
with. Two more things are not looked at: whether the plan followed its approval
(it does only if it is pending at the vote that decides), and whether it has
been replaced since. `Sound` asks for the three of them, of the request that
matters in each case and of the state before it.

An approval is decided once and stays decided. So the proof goes back from an
execution to the vote that decided its approval.
-/
import ComputeWeaver.Api.Actions
import ComputeWeaver.Api.GovernanceTheorems
import ComputeWeaver.Api.StoreTheorems
import ComputeWeaver.Execution.ActionGuardTheorems

namespace ComputeWeaver.Api

open Lib Risk Approval Persistence Execution ActionState GovernanceApi ActionApi Option

/-! ## Plans that change -/

section

variable (api : GovernanceApi)

def GovernanceApi.needsApproval (body : Document) : Bool :=
  match api.riskOf body with
  | .ok risk => decide (RiskLevel.L2 ≤ risk)
  | .error _ => false

/-- What a request does to the plan under one id: it posts the plan, or moves it
out of a state other than approved. -/
inductive PlanChange (g : Governed) (op : ApiOp) (planId : String) (g' : Governed) : Prop
  | same (hplan : api.planAt g' planId = api.planAt g planId)
  | posted (context : ApiContext) (data : Document) (hop : op = .createPlan context planId data)
  | moved (current plan : StoredResource) (hcurrent : api.planAt g planId = some current)
      (hstate : ¬ GovernanceApi.stateIs current.body "approved")
      (hplan : api.planAt g' planId = some plan)
      (hrisk : assocGet plan.body "risk" = assocGet current.body "risk")

/-- A vote that could decide an approval finds its plan, if that is stored with
a risk of L2 or above, pending; and its key has written no plan yet. -/
def VoteMovesPlan (g : Governed) (context : ApiContext) (approvalId : String) : Prop :=
  ∀ request ∈ g.workflow.requests.get? approvalId, request.status = .pending →
    request.requiredCount ≤ request.approvals.length + 1 →
      ∀ plan ∈ api.planAt g request.planId, api.needsApproval plan.body →
        GovernanceApi.stateIs plan.body "pending_approval" ∧
          (g.store.idempotency.get? (api.tenantId, context.idempotencyKey ++ ":plan")).isNone

instance (g : Governed) (context : ApiContext) (approvalId : String) :
    Decidable (VoteMovesPlan api g context approvalId) := by
  unfold VoteMovesPlan
  infer_instance

variable {api} {g g' : Governed} {op : ApiOp}

theorem PlanChange.put {context : ApiContext} {planId : String} {fields : Document}
    {ifMatch : Option String} {current resource : StoredResource} {s : String}
    (hcurrent : api.planAt g planId = some current) (hstate : stateIs current.body s)
    (hne : s ≠ "approved") (hrisk : "risk" ∉ fields.map Prod.fst)
    (hput : g.store.put api.env (api.planArgs context planId current.body fields ifMatch) =
      .ok (resource, g'.store)) (id : String) : PlanChange api g op id g' := by
  rcases planAt_put rfl rfl hput id with hsame | ⟨hid, plan, hplan, hbody⟩
  · exact .same hsame
  have hid : id = planId := hid
  subst hid
  refine .moved current plan hcurrent ?_ hplan ?_
  · intro happroved
    exact hne (stateIs_unique hstate happroved)
  · rw [hbody]
    exact planArgs_other hrisk (by decide)

theorem Handled.planChange (h : Handled api g op g') (planId : String) :
    PlanChange api g op planId g' := by
  cases h with
  | nothing => exact .same rfl
  | created context id data body resource store hbody hput =>
    rcases planAt_put rfl rfl hput planId with hsame | ⟨hid, _⟩
    · exact .same hsame
    · have hid : planId = id := hid
      exact .posted context data (by rw [hid])
  | validated context id now current resource store hcurrent hdraft hput =>
    exact .put hcurrent hdraft (by decide) (by simp) hput planId
  | submitted context id submission now current resource store request workflow hcurrent
      hvalidated hrisk hnew hput hworkflow =>
    exact .put hcurrent hvalidated (by decide) (by split <;> simp) hput planId
  | requested => exact .same rfl
  | modified => exact .same rfl
  | rejected => exact .same rfl
  | planRejected context approvalId data now id current resource store hcurrent hpending hput =>
    exact .put hcurrent hpending (by decide) (by simp) hput planId
  | voted => exact .same rfl
  | planApproved context approvalId data role now approval workflow current resource store
      happrove hstatus hcurrent hpending hput =>
    exact .put hcurrent hpending (by decide) (by simp) hput planId

theorem Handled.decided (h : Handled api g op g') {id : String} {r : ApprovalRequest}
    (hget : g'.workflow.requests.get? id = some r) (hstatus : r.status = .approved) :
    g.workflow.requests.get? id = some r ∨
      ∃ context data, op = .approveRequest context id data ∧
        (VoteMovesPlan api g context id → ∀ plan, api.planAt g' r.planId = some plan →
          api.needsApproval plan.body → stateIs plan.body "approved") := by
  cases h with
  | nothing | created | validated => exact .inl hget
  | submitted context id submission now current resource store request workflow hcurrent
      hvalidated hrisk hnew hput hworkflow =>
    rcases hworkflow with rfl | rfl
    · exact .inl hget
    · exact .inl (create_approved hnew.1 hget hstatus)
  | requested context id data request hnew => exact .inl (create_approved hnew.1 hget hstatus)
  | modified => exact .inl (modify_approved hget hstatus)
  | rejected => exact .inl (reject_approved hget hstatus)
  | planRejected => exact .inl (reject_approved hget hstatus)
  | voted context approvalId data role now hstays =>
    rcases approve_decides hget hstatus with
      hbefore | ⟨rfl, hvote, request, hrequest, hpending, hcount, hplanId⟩
    · exact .inl hbefore
    refine .inr ⟨context, data, rfl, fun hmoves plan hplan hrisk => ?_⟩
    -- nothing stands in the way of the put, so the plan did follow
    have hplan : api.planAt g r.planId = some plan := hplan
    obtain ⟨hstate, hkey⟩ :=
      hmoves request hrequest hpending hcount plan (hplanId ▸ hplan) hrisk
    obtain ⟨e, herror⟩ := hstays r plan hvote hstatus hplan hstate
    obtain ⟨store, hput, _⟩ := ResourceStore.put_of_new_key api.env
      (api.planArgs context r.planId plan.body
        [("state", .str "approved"), ("approved_at", .time now)] (some plan.etag))
      (isNone_iff_eq_none.mp hkey) fun previous hprevious => by
        cases hplan.symm.trans hprevious; rfl
    cases herror.symm.trans hput
  | planApproved context approvalId data role now approval workflow current resource store
      happrove happroved hcurrent hstate hput =>
    have hget : (g.workflow.approve approvalId context.actorId role now).2.requests.get? id =
        some r := by rw [happrove]; exact hget
    rcases approve_decides hget hstatus with
      hbefore | ⟨rfl, hvote, request, hrequest, hpending, hcount, hplanId⟩
    · exact .inl hbefore
    rw [happrove] at hvote
    cases hvote
    refine .inr ⟨context, data, rfl, fun hmoves plan hplan hrisk => ?_⟩
    cases ResourceStore.put_effect hput with
    | replayed _ hrecord =>
      cases hcurrent.symm.trans hplan
      obtain ⟨_, hkey⟩ :=
        hmoves request hrequest hpending hcount current (hplanId ▸ hcurrent) hrisk
      cases hrecord.symm.trans (isNone_iff_eq_none.mp hkey)
    | stored =>
      cases (Dict.get?_set_self _ _ _).symm.trans hplan
      exact stateIs_of_get (planArgs_state (by simp)) "approved"

end

/-! ## What an execution rests on -/

section

variable (api : ActionApi)

/-- An action on a plan that is stored with a risk of L2 or above says so. -/
def HonestRisk (x : ActionState) (actionId : String) (data : Document) : Prop :=
  match api.parseAction actionId data with
  | .ok action => ∀ plan ∈ api.planAt x.base.governed action.planId,
      api.needsApproval plan.body → RiskLevel.L2 ≤ action.risk
  | .error _ => True

instance (x : ActionState) (actionId : String) (data : Document) :
    Decidable (HonestRisk api x actionId data) := by
  unfold HonestRisk
  split <;> infer_instance

/-- What the requests of a sequence have to observe: an action on a plan that
needs approval says so in its risk; a vote that decides an approval finds the
plan pending; and a plan is not posted again once an approval of it has been
granted. -/
def Sound (x : ActionState) : ActionOp → Prop
  | .request (.createPlan _ id _) =>
      ∀ entry ∈ x.base.governed.workflow.requests.entries,
        entry.2.status = .approved → entry.2.planId ≠ id
  | .request (.approveRequest context approvalId _) =>
      VoteMovesPlan api.toGovernanceApi x.base.governed context approvalId
  | .execute actionId data _ => HonestRisk api x actionId data
  | _ => True

instance (x : ActionState) : (op : ActionOp) → Decidable (Sound api x op)
  | .request (.createPlan _ id _) =>
      inferInstanceAs (Decidable (∀ entry ∈ x.base.governed.workflow.requests.entries,
        entry.2.status = .approved → entry.2.planId ≠ id))
  | .request (.approveRequest context approvalId _) =>
      inferInstanceAs (Decidable
        (VoteMovesPlan api.toGovernanceApi x.base.governed context approvalId))
  | .execute actionId data _ => inferInstanceAs (Decidable (HonestRisk api x actionId data))
  | .request (.validatePlan ..) => .isTrue trivial
  | .request (.submitPlanApproval ..) => .isTrue trivial
  | .request (.createApproval ..) => .isTrue trivial
  | .request (.rejectRequest ..) => .isTrue trivial
  | .request (.modifyApproval ..) => .isTrue trivial
  | .cancel .. => .isTrue trivial
  | .write .. => .isTrue trivial

def Granted (x : ActionState) (approvalId : String) : Prop :=
  ∃ request, x.base.governed.workflow.requests.get? approvalId = some request ∧
    request.status = .approved

variable {api}

theorem executeAction_base (actionId : String) (data : Document)
    (adapter : Action → Except PyError Value) (x : ActionState) :
    (api.executeAction actionId data adapter x).2.base = x.base := by
  unfold executeAction
  split
  · rfl
  split
  · rfl
  · rfl
  · dsimp only
    split <;> rfl

variable {actionId : String} {data : Document} {action : Action} {workflow : ApprovalWorkflow}

theorem admitted_of_invoked {adapter : Action → Except PyError Value} {x : ActionState}
    (h : (api.executeAction actionId data adapter x).1.invoked = some action) :
    api.admitAction x.base.governed.workflow actionId data = .ok action := by
  unfold executeAction at h
  split at h
  · cases h
  rename_i admitted hadmitted
  have hinvoked : ∀ called, (api.executeWithAdapter adapter admitted).invoked = some called →
      called = admitted := by
    intro called hcalled
    unfold executeWithAdapter at hcalled
    split at hcalled
    · cases hcalled
    · exact (Option.some.inj hcalled).symm
  split at h
  · cases h
  · cases h
  · dsimp only at h
    split at h
    · rw [hinvoked action h, hadmitted]
    · rw [hinvoked action h, hadmitted]

theorem ActionState.step_cases (api : ActionApi) (x : ActionState) (op : ActionOp) :
    ((x.step api op).base.governed.workflow = x.base.governed.workflow ∧
      ∀ planId, api.planAt (x.step api op).base.governed planId =
        api.planAt x.base.governed planId) ∨
    ∃ op', op = .request op' ∧
      Handled api.toGovernanceApi x.base.governed op' (x.step api op).base.governed := by
  cases op with
  | request op => exact .inr ⟨op, rfl, step_handled api.toGovernanceApi x.base op⟩
  | execute actionId data adapter =>
    refine .inl ?_
    rw [step, executeAction_base]
    exact ⟨rfl, fun _ => rfl⟩
  | cancel context actionId bodyId data =>
    refine .inl ?_
    have hsame : (api.cancelAction context actionId bodyId data x).2.base.governed =
        x.base.governed := by
      unfold cancelAction
      split <;> rfl
    rw [step, hsame]
    exact ⟨rfl, fun _ => rfl⟩
  | write args hkind =>
    refine .inl ⟨rfl, fun planId => ?_⟩
    show (x.base.governed.store.step api.env args).items.get? _ = _
    unfold ResourceStore.step
    split
    · rename_i resource store hput
      cases ResourceStore.put_effect hput with
      | replayed => rfl
      | stored =>
        refine Dict.get?_set_ne _ _ ?_
        intro heq
        exact hkind (Prod.mk.inj (Prod.mk.inj heq).2).1
    · rfl

/-- Since an approval was granted, its plan is approved and has not changed. -/
theorem granted_plan_kept (ops : List ActionOp)
    (hsound : Guarded (step api) (Sound api) .empty ops) {approvalId : String}
    {request : ApprovalRequest}
    (hget : (run (step api) .empty ops).base.governed.workflow.requests.get?
      approvalId = some request) (hstatus : request.status = .approved) :
    ∃ pre op mid, ops = pre ++ op :: mid ∧
      ¬ Granted (run (step api) .empty pre) approvalId ∧
      Granted (run (step api) .empty (pre ++ [op])) approvalId ∧
      ∀ plan, api.planAt (run (step api) .empty ops).base.governed request.planId =
          some plan → api.needsApproval plan.body →
        stateIs plan.body "approved" ∧
        api.planAt (run (step api) .empty (pre ++ [op])).base.governed
          request.planId = some plan := by
  -- from the end of the run: the last request granted it, or it was granted before
  induction ops using List.reverseRecOn with
  | nil => cases hget
  | append_singleton ops op ih =>
    obtain ⟨hearlier, hop, _⟩ := (guarded_append _ _ _).mp hsound
    rw [run_append, run_cons, run_nil] at hget ⊢
    generalize hx : run (step api) .empty ops = x at hop hget ih
    by_cases hbefore : Granted x approvalId
    · obtain ⟨request', hget', hstatus'⟩ := hbefore
      rcases ActionState.step_cases api x op with ⟨hworkflow, hplans⟩ | ⟨op', rfl, hhandled⟩
      · rw [hworkflow] at hget
        obtain ⟨pre, op₀, mid, hops, hnot, hgranted, hkept⟩ := ih hearlier hget
        refine ⟨pre, op₀, mid ++ [op], by simp [hops], hnot, hgranted, fun plan hplan hrisk => ?_⟩
        rw [hplans] at hplan
        exact hkept plan hplan hrisk
      · have hfinal := hhandled.effect.requests approvalId
        rw [hget'] at hfinal
        have hsame := hfinal.final (by simp [hstatus'])
        cases hsame.symm.trans hget
        obtain ⟨pre, op₀, mid, hops, hnot, hgranted, hkept⟩ := ih hearlier hget'
        refine ⟨pre, op₀, mid ++ [.request op'], by simp [hops], hnot, hgranted,
          fun plan hplan hrisk => ?_⟩
        cases hhandled.planChange request.planId with
        | same hunchanged => exact hkept plan (hunchanged.symm.trans hplan) hrisk
        | posted context data hposted =>
          subst hposted
          exact absurd rfl (hop _ (Dict.mem_entries_iff.mpr hget') hstatus')
        | moved current plan' hcurrent hstate hplan' hsameRisk =>
          cases hplan'.symm.trans hplan
          rw [needsApproval, riskOf_congr hsameRisk] at hrisk
          exact absurd (hkept current hcurrent hrisk).1 hstate
    · rcases ActionState.step_cases api x op with ⟨hworkflow, _⟩ | ⟨op', rfl, hhandled⟩
      · rw [hworkflow] at hget
        exact absurd ⟨request, hget, hstatus⟩ hbefore
      rcases hhandled.decided hget hstatus with hsame | ⟨context, data, rfl, hmoved⟩
      · exact absurd ⟨request, hsame, hstatus⟩ hbefore
      refine ⟨ops, _, [], rfl, hx ▸ hbefore, ?_, fun plan hplan hrisk => ?_⟩
      · rw [run_append, run_cons, run_nil, hx]
        exact ⟨request, hget, hstatus⟩
      · rw [run_append, run_cons, run_nil, hx]
        exact ⟨hmoved hop plan hplan hrisk, hplan⟩

theorem covers_of_admitted
    (h : api.admitAction workflow actionId data = .ok action) (hrisk : RiskLevel.L2 ≤ action.risk) :
    ∃ request now,
      workflow.requests.get? (api.env.str (docGetD data "approval_id" .none)) = some request ∧
      ActionGuard.Covers action now request := by
  obtain ⟨parsed, _, h⟩ := bind_eq_ok.mp h
  obtain ⟨approval, hnamed, h⟩ := bind_eq_ok.mp h
  obtain ⟨_, _, h⟩ := bind_eq_ok.mp h
  obtain ⟨_, _, h⟩ := bind_eq_ok.mp h
  obtain ⟨now, _, h⟩ := bind_eq_ok.mp h
  obtain ⟨decision, heval, h⟩ := bind_eq_ok.mp h
  simp only [except_throw] at h
  split at h
  · cases h
  rename_i hallowed
  cases h
  obtain ⟨request, rfl, hcovers⟩ :=
    ActionGuard.evaluate_covers heval (by simpa using hallowed) hrisk
  refine ⟨request, now, ?_, hcovers⟩
  unfold namedApproval at hnamed
  split at hnamed
  · obtain ⟨value, hvalue, hnamed⟩ := bind_eq_ok.mp hnamed
    obtain ⟨_, hget, hnamed⟩ := bind_eq_ok.mp hnamed
    cases hnamed
    unfold docItem at hvalue
    split at hvalue
    · rename_i hitem
      cases hvalue
      simp only [docGetD, hitem, getD_some]
      exact Dict.getItem_eq_ok.mp hget
    · cases hvalue
  · cases hnamed

theorem parse_of_admitted
    (h : api.admitAction workflow actionId data = .ok action) :
    api.parseAction actionId data = .ok action := by
  obtain ⟨parsed, hparsed, h⟩ := bind_eq_ok.mp h
  iterate 5 obtain ⟨_, _, h⟩ := bind_eq_ok.mp h
  simp only [except_throw] at h
  split at h
  · cases h
  · cases h
    exact hparsed

theorem parseAction_tenantId (h : api.parseAction actionId data = .ok action) :
    action.tenantId = api.tenantId := by
  iterate 13 obtain ⟨_, _, h⟩ := bind_eq_ok.mp h
  cases h
  rfl

/-- **Main result.** In every sequence of requests that observes `Sound`,
whenever an execution calls the adapter for an action whose plan is stored with
a risk of L2 or above: the body names an approval that is APPROVED, of that
plan and tenant; the plan is in the state approved; and it is, to the last
field, the plan that was stored after the request that granted the
approval. -/
theorem executed_action_approved (api : ActionApi) (ops : List ActionOp) (actionId : String)
    (data : Document) (adapter : Action → Except PyError Value) (action : Action)
    (plan : StoredResource)
    (hsound : Guarded (ActionState.step api) (Sound api) .empty
      (ops ++ [.execute actionId data adapter]))
    (hinvoked : (api.executeAction actionId data adapter
      (run (ActionState.step api) .empty ops)).1.invoked = some action)
    (hplan : api.planAt (run (ActionState.step api) .empty ops).base.governed action.planId =
      some plan) (hrisk : api.needsApproval plan.body) :
    ∃ approvalId request,
      approvalId = api.env.str (docGetD data "approval_id" .none) ∧
      (run (ActionState.step api) .empty ops).base.governed.workflow.requests.get? approvalId =
        some request ∧
      request.status = .approved ∧ request.planId = action.planId ∧
      request.tenantId = api.tenantId ∧ GovernanceApi.stateIs plan.body "approved" ∧
      ∃ pre op mid, ops = pre ++ op :: mid ∧
        ¬ Granted (run (ActionState.step api) .empty pre) approvalId ∧
        Granted (run (ActionState.step api) .empty (pre ++ [op])) approvalId ∧
        api.planAt (run (ActionState.step api) .empty (pre ++ [op])).base.governed
          action.planId = some plan := by
  obtain ⟨hsound, hhonest, _⟩ := (guarded_append _ _ _).mp hsound
  have hadmitted := admitted_of_invoked hinvoked
  have hparse := parse_of_admitted hadmitted
  have hhonest : RiskLevel.L2 ≤ action.risk := by
    simp only [Sound, HonestRisk, hparse] at hhonest
    exact hhonest plan hplan hrisk
  obtain ⟨request, now, hget, hcovers⟩ := covers_of_admitted hadmitted hhonest
  obtain ⟨pre, op, mid, hops, hnot, hgranted, hkept⟩ :=
    granted_plan_kept ops hsound hget hcovers.approved
  obtain ⟨hstate, hsame⟩ := hkept plan (hcovers.plan ▸ hplan) hrisk
  exact ⟨_, request, rfl, hget, hcovers.approved, hcovers.plan,
    hcovers.tenant.trans (parseAction_tenantId hparse), hstate, pre, op, mid, hops, hnot, hgranted,
    hcovers.plan ▸ hsame⟩

end

/-! ## Concrete requests -/

def sampleActionApi : ActionApi := ⟨sampleApi, "test"⟩

def simulated : Action → Except PyError Value := fun _ => .ok (.str "executed")

/-- The body of an execution of plan-1. -/
def actionData (risk : Int) (fields : Document) : Document :=
  [("plan_id", .str "plan-1"), ("target", .str "simulator"), ("kind", .str "schedule_job"),
    ("expected_state_version", .str "state-1"), ("parameters", .dict [("gpu_count", .int 4)]),
    ("idempotency_key", .str "action-key-1"), ("risk", .int risk),
    ("created_at", .str "2026-01-01T00:00:00+00:00"), ("current_state_version", .str "state-1"),
    ("now", .str "2026-01-01T00:00:00+00:00")] ++ fields

def approvedData : Document := actionData 3 [("approval_id", .str "approval-plan-1-3")]

theorem executed_action_approved_approvalOps :
    ∃ action plan,
      (sampleActionApi.executeAction "action-1" approvedData simulated
        (run (ActionState.step sampleActionApi) .empty (approvalOps.map .request))).1.invoked =
          some action ∧
      sampleActionApi.planAt (run (ActionState.step sampleActionApi) .empty
        (approvalOps.map .request)).base.governed action.planId = some plan ∧
      GovernanceApi.stateIs plan.body "approved" := by
  have hrun : Guarded (step sampleActionApi) (Sound sampleActionApi) .empty
        (approvalOps.map .request ++ [.execute "action-1" approvedData simulated]) ∧
      (sampleActionApi.executeAction "action-1" approvedData simulated
        (run (step sampleActionApi) .empty (approvalOps.map .request))).1.invoked.any
        (fun action => (sampleActionApi.planAt (run (step sampleActionApi) .empty
          (approvalOps.map .request)).base.governed action.planId).any fun plan =>
            sampleActionApi.needsApproval plan.body) = true := by decide +kernel
  obtain ⟨hsound, hexecuted⟩ := hrun
  obtain ⟨action, hinvoked, hplan⟩ := (any_eq_true _ _).mp hexecuted
  obtain ⟨plan, hplan, hrisk⟩ := (any_eq_true _ _).mp hplan
  obtain ⟨_, _, _, _, _, _, _, hstate, _⟩ := executed_action_approved sampleActionApi
    (approvalOps.map .request) "action-1" approvedData simulated action plan hsound hinvoked hplan
    hrisk
  exact ⟨action, plan, hinvoked, hplan, hstate⟩

/-- A plan of risk L3 is posted. -/
def draftOps : List ActionOp := (submissionOps.take 1).map .request

/-- The adapter is called for an action on a draft of risk L3, when no approval
exists at all: the body says that the action is of risk L0. -/
theorem low_risk_action_executes_draft :
    ∃ action plan,
      (sampleActionApi.executeAction "action-1" (actionData 0 []) simulated
        (run (ActionState.step sampleActionApi) .empty draftOps)).1.invoked = some action ∧
      sampleActionApi.planAt (run (ActionState.step sampleActionApi) .empty
        draftOps).base.governed action.planId = some plan ∧
      sampleActionApi.needsApproval plan.body ∧ GovernanceApi.stateIs plan.body "draft" ∧
      (run (ActionState.step sampleActionApi) .empty
        draftOps).base.governed.workflow.requests.entries = [] := by
  have hrun : (sampleActionApi.executeAction "action-1" (actionData 0 []) simulated
        (run (step sampleActionApi) .empty draftOps)).1.invoked.any
        (fun action => (sampleActionApi.planAt (run (step sampleActionApi) .empty
          draftOps).base.governed action.planId).any fun plan =>
            sampleActionApi.needsApproval plan.body && stateIs plan.body "draft") =
          true ∧
      (run (step sampleActionApi) .empty
        draftOps).base.governed.workflow.requests.entries = [] := by decide +kernel
  obtain ⟨hexecuted, hnone⟩ := hrun
  obtain ⟨action, hinvoked, hplan⟩ := (any_eq_true _ _).mp hexecuted
  obtain ⟨plan, hplan, hfacts⟩ := (any_eq_true _ _).mp hplan
  obtain ⟨hrisk, hdraft⟩ := Bool.and_eq_true_iff.mp hfacts
  exact ⟨action, plan, hinvoked, hplan, hrisk, hdraft, hnone⟩

end ComputeWeaver.Api
