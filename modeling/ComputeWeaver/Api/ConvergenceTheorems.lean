/-
Api.ConvergenceTheorems — whether a plan follows the vote that
decides its approval.

The vote is recorded before the plan is put. A call whose put fails raises and
leaves no record of the operation, so the same request runs the callback again;
but the workflow takes no vote on an approval that is not PENDING, and the
callback raises before it reaches the plan. A repeated call therefore changes
nothing at all (`approveRequestAmid_of_approved`), and the plan is approved
after any number of repetitions exactly when it is after the first call: when
nothing stands in the way of the put (`Unhindered`).
-/
import ComputeWeaver.Api.Interference
import ComputeWeaver.Api.SubmissionTheorems

namespace ComputeWeaver.Api

open Lib Risk Approval Persistence GovernanceApi ResourceStore Option

/-! ## Writes without the lock -/

section

variable {api : GovernanceApi}

def GovernanceApi.PlanIn (api : GovernanceApi) (store : ResourceStore) (planId state : String) :
    Prop :=
  ∃ plan, store.items.get? (api.tenantId, "plan", planId) = some plan ∧
    GovernanceApi.stateIs plan.body state

theorem stepOutside_plan (api : GovernanceApi) (store : ResourceStore) (write : OutsidePut)
    (planId : String) :
    (store.stepOutside api.env write).items.get? (api.tenantId, "plan", planId) =
        store.items.get? (api.tenantId, "plan", planId) ∨
      api.PlanIn (store.stepOutside api.env write) planId "draft" := by
  unfold GovernanceApi.PlanIn stepOutside step
  cases hput : store.put api.env write.args with
  | error e => exact .inl rfl
  | ok out =>
    obtain ⟨resource, store'⟩ := out
    cases put_effect hput with
    | replayed => exact .inl rfl
    | stored =>
      by_cases hkey : write.args.key = (api.tenantId, "plan", planId)
      · refine .inr ⟨written api.env write.args
          (store.items.get? write.args.key), ?_, ?_⟩
        · rw [← hkey]
          exact Dict.get?_set_self _ _ _
        · have hkind : write.args.kind = "plan" := (Prod.mk.inj (Prod.mk.inj hkey).2).1
          have hstate : assocGet write.args.normalized "state" = some (.str "draft") :=
            (assocGet_docWith _ _ _ _).trans ((if_neg (by decide)).trans (write.draft hkind))
          exact stateIs_of_get hstate "draft"
      · exact .inl (Dict.get?_set_ne _ _ hkey)

theorem storeAmid_plan (amid : Interference) (store : ResourceStore) (planId : String) :
    (api.storeAmid amid store).items.get? (api.tenantId, "plan", planId) =
        store.items.get? (api.tenantId, "plan", planId) ∨
      api.PlanIn (api.storeAmid amid store) planId "draft" := by
  refine run_invariant (P := fun after : ResourceStore =>
    after.items.get? (api.tenantId, "plan", planId) =
        store.items.get? (api.tenantId, "plan", planId) ∨ api.PlanIn after planId "draft")
    ?_ amid.writes store (.inl rfl)
  intro after write hafter
  rcases stepOutside_plan api after write planId with hsame | hdraft
  · unfold GovernanceApi.PlanIn at hafter ⊢
    rwa [hsame]
  · exact .inr hdraft

end

/-! ## The put of a decided plan -/

section

variable (api : GovernanceApi)

/-- Nothing stands in the way of the put: the store does not fail, the key has
put no plan yet, and the plan has not been written since it was read. -/
structure Unhindered (amid : Interference) (context : ApiContext) (planId : String)
    (plan : StoredResource) (store : ResourceStore) : Prop where
  read : amid.readFailure = none
  write : amid.writeFailure = none
  key : (api.storeAmid amid store).idempotency.get?
    (api.tenantId, context.idempotencyKey ++ ":plan") = none
  etag : ∀ latest, (api.storeAmid amid store).items.get? (api.tenantId, "plan", planId) =
    some latest → latest.etag = plan.etag

instance (amid : Interference) (context : ApiContext) (planId : String) (plan : StoredResource)
    (store : ResourceStore) : Decidable (Unhindered api amid context planId plan store) :=
  decidable_of_iff
    (amid.readFailure = none ∧ amid.writeFailure = none ∧
      (api.storeAmid amid store).idempotency.get?
        (api.tenantId, context.idempotencyKey ++ ":plan") = none ∧
      ∀ latest, (api.storeAmid amid store).items.get? (api.tenantId, "plan", planId) =
        some latest → latest.etag = plan.etag)
    ⟨fun ⟨hread, hwrite, hkey, hetag⟩ => ⟨hread, hwrite, hkey, hetag⟩,
      fun h => ⟨h.read, h.write, h.key, h.etag⟩⟩

/-- What becomes of the plan of a decided approval. -/
inductive Moved (amid : Interference) (context : ApiContext) (approval : ApprovalRequest)
    (fields : Document) (g : Governed) : Governed → Prop
  | untouched (hhindered : ∀ plan, api.planAt g approval.planId = some plan →
        GovernanceApi.stateIs plan.body "pending_approval" →
          ¬ Unhindered api amid context approval.planId plan g.store) :
      Moved amid context approval fields g g
  | hindered (plan : StoredResource) (hplan : api.planAt g approval.planId = some plan)
      (hhindered : ¬ Unhindered api amid context approval.planId plan g.store) :
      Moved amid context approval fields g { g with store := api.storeAmid amid g.store }
  | followed (plan next : StoredResource) (store : ResourceStore)
      (hplan : api.planAt g approval.planId = some plan)
      (hunhindered : Unhindered api amid context approval.planId plan g.store)
      (hnext : next.body = (api.planArgs context approval.planId plan.body fields
        (some plan.etag)).normalized)
      (hitems : store.items = (api.storeAmid amid g.store).items.set
        (api.tenantId, "plan", approval.planId) next) :
      Moved amid context approval fields g { g with store }

variable {api} {amid : Interference} {context : ApiContext} {approval : ApprovalRequest}
  {fields : Document} {g : Governed} {plan : StoredResource}

theorem putAmid_moved (hread : amid.readFailure = none)
    (hplan : api.planAt g approval.planId = some plan) :
    Moved api amid context approval fields g
      (atomically { g with store := api.storeAmid amid g.store } do
        let (updated, store) ← api.putAmid amid
          (api.planArgs context approval.planId plan.body fields (some plan.etag))
          (api.storeAmid amid g.store)
        pure (.decision approval (some updated), { g with store })).2 := by
  unfold putAmid
  cases hwrite : amid.writeFailure with
  | some e =>
    refine .hindered plan hplan fun h => ?_
    cases hwrite.symm.trans h.write
  | none =>
    dsimp only
    cases hkey : (api.storeAmid amid g.store).idempotency.get?
        (api.tenantId, context.idempotencyKey ++ ":plan") with
    | some record =>
      have hhindered : ¬ Unhindered api amid context approval.planId plan g.store :=
        fun h => by cases hkey.symm.trans h.key
      rcases put_of_record api.env (api.planArgs context approval.planId
        plan.body fields (some plan.etag)) hkey with ⟨e, hput⟩ | hput
      · rw [hput]
        exact .hindered plan hplan hhindered
      · rw [hput]
        exact .hindered plan hplan hhindered
    | none =>
      by_cases hetag : ∀ latest, (api.storeAmid amid g.store).items.get?
          (api.tenantId, "plan", approval.planId) = some latest → latest.etag = plan.etag
      · obtain ⟨store, hput, hitems⟩ := put_of_new_key api.env
          (api.planArgs context approval.planId plan.body fields (some plan.etag)) hkey
          fun latest hlatest => congrArg some (hetag latest hlatest).symm
        rw [hput]
        exact .followed plan _ store hplan ⟨hread, hwrite, hkey, hetag⟩ rfl hitems
      · have hhindered : ¬ Unhindered api amid context approval.planId plan g.store :=
          fun h => hetag h.etag
        cases hput : (api.storeAmid amid g.store).put api.env
            (api.planArgs context approval.planId plan.body fields (some plan.etag)) with
        | error e => exact .hindered plan hplan hhindered
        | ok out =>
          obtain ⟨resource, store⟩ := out
          refine absurd ?_ hetag
          cases put_effect hput with
          | replayed _ hrecord => cases hkey.symm.trans hrecord
          | stored _ hmatch =>
            intro latest hlatest
            exact (Option.some.inj (hmatch latest hlatest)).symm

theorem movePlanAmid_moved :
    Moved api amid context approval fields g
      (api.movePlanAmid amid context approval fields g).2 := by
  unfold movePlanAmid readAmid
  cases hread : amid.readFailure with
  | some e =>
    have hhindered : ∀ plan, api.planAt g approval.planId = some plan →
        stateIs plan.body "pending_approval" →
          ¬ Unhindered api amid context approval.planId plan g.store :=
      fun _ _ _ h => by cases hread.symm.trans h.read
    cases e <;> exact .untouched hhindered
  | none =>
    dsimp only
    cases hget : g.store.get "plan" approval.planId api.tenantId with
    | error e =>
      have hhindered : ∀ plan, api.planAt g approval.planId = some plan →
          stateIs plan.body "pending_approval" →
            ¬ Unhindered api amid context approval.planId plan g.store :=
        fun plan hplan => by cases hget.symm.trans (Dict.getItem_eq_ok.mpr hplan)
      cases e <;> exact .untouched hhindered
    | ok plan =>
      have hplan := planAt_of_get hget
      dsimp only
      split
      · exact putAmid_moved hread hplan
      rename_i hstate
      refine .untouched fun plan' hplan' hpending => ?_
      cases hplan.symm.trans hplan'
      exact absurd hpending hstate

variable {g' : Governed}

section

variable (h : Moved api amid context approval fields g g') {state : String}
include h

theorem Moved.workflow : g'.workflow = g.workflow := by
  cases h <;> rfl

/-- A plan that is not the approval's is as the other handlers leave it. -/
theorem Moved.planAt_cases
    (hfields : ∃ rest, fields = ("state", .str state) :: rest ∧
      "state" ∉ rest.map Prod.fst) (planId : String) :
    api.planAt g' planId = api.planAt g planId ∨ api.PlanIn g'.store planId "draft" ∨
      (planId = approval.planId ∧ api.PlanIn g'.store planId state) := by
  cases h with
  | untouched => exact .inl rfl
  | hindered => exact (storeAmid_plan amid g.store planId).imp_right .inl
  | followed plan next store hplan hunhindered hnext hitems =>
    by_cases hid : planId = approval.planId
    · obtain ⟨rest, rfl, hrest⟩ := hfields
      refine .inr (.inr ⟨hid, next, ?_, ?_⟩)
      · rw [hitems, hid]
        exact Dict.get?_set_self _ _ _
      · rw [hnext]
        exact (stateIs_of_get (planArgs_state hrest) state).trans (decide_eq_true rfl)
    · have hother : store.items.get? (api.tenantId, "plan", planId) =
          (api.storeAmid amid g.store).items.get? (api.tenantId, "plan", planId) := by
        rw [hitems]
        exact Dict.get?_set_ne _ _ fun h => hid (Prod.mk.inj (Prod.mk.inj h).2).2.symm
      unfold planAt GovernanceApi.PlanIn
      rw [hother]
      exact (storeAmid_plan amid g.store planId).imp_right .inl

/-- A pending plan gets to the state of the put if it is not hindered, and
only then. -/
theorem Moved.reaches_iff
    (hfields : ∃ rest, fields = ("state", .str state) :: rest ∧
      "state" ∉ rest.map Prod.fst) (hne : state ≠ "pending_approval") (hdraft : state ≠ "draft")
    (hplan : api.planAt g approval.planId = some plan)
    (hpending : stateIs plan.body "pending_approval") :
    api.PlanIn g'.store approval.planId state ↔
      Unhindered api amid context approval.planId plan g.store := by
  -- as long as the put does not write, the plan is pending or a draft
  have hstays : (g'.store.items.get? (api.tenantId, "plan", approval.planId) =
      g.store.items.get? (api.tenantId, "plan", approval.planId) ∨
        api.PlanIn g'.store approval.planId "draft") →
      ¬ api.PlanIn g'.store approval.planId state := by
    rintro (hsame | ⟨other, hother, hstate⟩) ⟨plan', hplan', hstate'⟩
    · cases (hsame.trans hplan).symm.trans hplan'
      exact hne (stateIs_unique hstate' hpending)
    · cases hother.symm.trans hplan'
      exact hdraft (stateIs_unique hstate' hstate)
  cases h with
  | untouched hhindered => exact iff_of_false (hstays (.inl rfl)) (hhindered plan hplan hpending)
  | hindered plan' hplan' hhindered =>
    cases hplan.symm.trans hplan'
    exact iff_of_false (hstays (storeAmid_plan amid g.store approval.planId)) hhindered
  | followed plan' next store hplan' hunhindered hnext hitems =>
    cases hplan.symm.trans hplan'
    obtain ⟨rest, rfl, hrest⟩ := hfields
    refine iff_of_true ⟨next, ?_, ?_⟩ hunhindered
    · rw [hitems]
      exact Dict.get?_set_self _ _ _
    · rw [hnext]
      exact (stateIs_of_get (planArgs_state hrest) state).trans (decide_eq_true rfl)

end

end

/-! ## Votes -/

section

variable {api : GovernanceApi} {amid : Interference} {context : ApiContext} {approvalId : String}
  {data : Document} {x : ApiState}

def approvedFields (now : DateTime) : Document :=
  [("state", .str "approved"), ("approved_at", .time now)]

theorem approvedFields_state (now : DateTime) : ∃ rest,
    approvedFields now = ("state", .str "approved") :: rest ∧ "state" ∉ rest.map Prod.fst :=
  ⟨[("approved_at", .time now)], rfl, by simp⟩

/-- A vote does nothing, reaches the workflow only, or decides and turns to the
plan. -/
theorem approveRequestAmid_cases (api : GovernanceApi) (amid : Interference)
    (context : ApiContext) (approvalId : String) (data : Document) (x : ApiState) :
    (api.approveRequestAmid amid context approvalId data x).2.governed = x.governed ∨
    (∃ role now, (∀ approval,
        (x.governed.workflow.approve approvalId context.actorId role now).1 = .ok approval →
          approval.status ≠ .approved) ∧
      (api.approveRequestAmid amid context approvalId data x).2.governed =
        { x.governed with
          workflow := (x.governed.workflow.approve approvalId context.actorId role now).2 }) ∨
    ∃ role now approval workflow,
      x.governed.workflow.approve approvalId context.actorId role now = (.ok approval, workflow) ∧
      approval.status = .approved ∧
      (api.approveRequestAmid amid context approvalId data x).2.governed =
        (api.movePlanAmid amid context approval (approvedFields now)
          { x.governed with workflow }).2 := by
  unfold approveRequestAmid
  split
  · exact .inl rfl
  split
  · exact .inl rfl
  rename_i value _ _
  rcases audited_governed api context "approval.approve" data
    (api.approveAmid amid context approvalId (api.env.str value) data) x with hsame | hran
  · exact .inl hsame
  rw [hran]
  unfold approveAmid
  split
  · exact .inl rfl
  rename_i now _
  split
  · rename_i e workflow happrove
    refine .inr (.inl ⟨api.env.str value, now, ?_, ?_⟩)
    · rw [happrove]
      nofun
    · rw [happrove]
  · rename_i approval workflow happrove
    split
    · rename_i hstatus
      exact .inr (.inr ⟨api.env.str value, now, approval, workflow, happrove, hstatus, rfl⟩)
    rename_i hstatus
    refine .inr (.inl ⟨api.env.str value, now, ?_, ?_⟩)
    · rw [happrove]
      intro approval' h
      cases h
      exact hstatus
    · rw [happrove]

theorem approveRequestAmid_of_approved {r : ApprovalRequest}
    (hget : x.governed.workflow.requests.get? approvalId = some r)
    (hstatus : r.status = .approved) :
    (api.approveRequestAmid amid context approvalId data x).2 = x := by
  unfold approveRequestAmid
  split
  · rfl
  split
  · rfl
  rename_i value _ _
  have happrove : ∀ now, x.governed.workflow.approve approvalId context.actorId
      (api.env.str value) now = (.error (.valueError "approval is not pending"),
        x.governed.workflow) := by
    intro now
    simp [ApprovalWorkflow.approve, hget, hstatus]
  have hraised : ∃ e, api.approveAmid amid context approvalId (api.env.str value) data x.governed =
      (.error e, x.governed) := by
    unfold approveAmid
    split
    · exact ⟨_, rfl⟩
    · rw [happrove]
      exact ⟨_, rfl⟩
  obtain ⟨e, hraised⟩ := hraised
  unfold auditedOperation
  dsimp only
  rw [executeMemory_of_error hraised]

def Decided (g : Governed) (approvalId : String) : Prop :=
  ∃ approval, g.workflow.requests.get? approvalId = some approval ∧ approval.status = .approved

/-- **One call.** The vote that decides an approval brings its pending plan to
approved exactly when it is not hindered. -/
theorem vote_reaches_iff {request : ApprovalRequest} {plan : StoredResource}
    (hrequest : x.governed.workflow.requests.get? approvalId = some request)
    (hpending : request.status = .pending)
    (hplan : api.planAt x.governed request.planId = some plan)
    (hstate : stateIs plan.body "pending_approval")
    (hdecided : Decided (api.approveRequestAmid amid context approvalId data x).2.governed
      approvalId) :
    api.PlanIn (api.approveRequestAmid amid context approvalId data x).2.governed.store
        request.planId "approved" ↔
      Unhindered api amid context request.planId plan x.governed.store := by
  obtain ⟨r, hr, happroved⟩ := hdecided
  have hbefore : x.governed.workflow.requests.get? approvalId ≠ some r := by
    intro h
    cases hrequest.symm.trans h
    simp [hpending] at happroved
  rcases approveRequestAmid_cases api amid context approvalId data x with
    hsame | ⟨role, now, hundecided, hafter⟩ | ⟨role, now, approval, workflow, happrove, hstatus,
      hafter⟩
  · rw [hsame] at hr
    exact absurd hr hbefore
  · rw [hafter] at hr
    rcases approve_decides hr happroved with h | ⟨_, hvote, _⟩
    · exact absurd h hbefore
    · exact absurd happroved (hundecided r hvote)
  · obtain ⟨request', hrequest', _, hplanId, _⟩ := approve_approved happrove hstatus
    cases hrequest.symm.trans hrequest'
    rw [hafter, ← hplanId]
    rw [← hplanId] at hplan
    exact movePlanAmid_moved.reaches_iff (approvedFields_state now) (by decide) (by decide) hplan
      hstate

/-- The same request, sent again and again. -/
def GovernanceApi.repeated (api : GovernanceApi) (context : ApiContext) (approvalId : String)
    (data : Document) (x : ApiState) (retries : List Interference) : ApiState :=
  run (fun y amid => (api.approveRequestAmid amid context approvalId data y).2) x retries

theorem repeated_of_decided (hdecided : Decided x.governed approvalId)
    (retries : List Interference) : api.repeated context approvalId data x retries = x := by
  obtain ⟨r, hget, hstatus⟩ := hdecided
  refine run_invariant (P := fun y => y = x) ?_ retries x rfl
  rintro y amid rfl
  exact approveRequestAmid_of_approved hget hstatus

end

/-! ## Runs -/

section

variable (api : GovernanceApi)

/-- An APPROVED approval whose own plan is pending. -/
def Stuck (g : Governed) : Prop :=
  ∃ approvalId request plan, g.workflow.requests.get? approvalId = some request ∧
    request.status = .approved ∧ api.planAt g request.planId = some plan ∧
    GovernanceApi.namesApproval plan.body approvalId ∧
    GovernanceApi.stateIs plan.body "pending_approval"

/-- A vote that could decide over its own pending plan is not hindered. -/
def PlanFollows (amid : Interference) (context : ApiContext) (approvalId : String)
    (g : Governed) : Prop :=
  ∀ request, g.workflow.requests.get? approvalId = some request → request.status = .pending →
    request.requiredCount ≤ request.approvals.length + 1 →
      ∀ plan, api.planAt g request.planId = some plan →
        GovernanceApi.namesApproval plan.body approvalId →
        GovernanceApi.stateIs plan.body "pending_approval" →
          Unhindered api amid context request.planId plan g.store

instance (amid : Interference) (context : ApiContext) (approvalId : String) (g : Governed) :
    Decidable (PlanFollows api amid context approvalId g) := by
  unfold PlanFollows
  infer_instance

/-- No approval of the plan has been decided under the id that a submission
gives to its own. -/
def NotDecidedBefore (planId : String) (g : Governed) : Prop :=
  ∀ current, api.planAt g planId = some current →
    ∀ existing, g.workflow.requests.get?
        ("approval-" ++ planId ++ "-" ++ toString (current.version + 1)) = some existing →
      existing.planId = planId → existing.status ≠ .approved

instance (planId : String) (g : Governed) : Decidable (NotDecidedBefore api planId g) := by
  unfold NotDecidedBefore
  infer_instance

/-- What the events of a run have to observe. -/
def Settles (x : ApiState) : ApiEvent → Prop
  | .request (.approveRequest context approvalId _) amid =>
      PlanFollows api amid context approvalId x.governed
  | .request (.submitPlanApproval _ planId _ _) _ => NotDecidedBefore api planId x.governed
  | _ => True

instance (x : ApiState) : (event : ApiEvent) → Decidable (Settles api x event)
  | .request (.approveRequest context approvalId _) amid =>
      inferInstanceAs (Decidable (PlanFollows api amid context approvalId x.governed))
  | .request (.submitPlanApproval _ planId _ _) _ =>
      inferInstanceAs (Decidable (NotDecidedBefore api planId x.governed))
  | .request (.createPlan ..) _ => .isTrue trivial
  | .request (.validatePlan ..) _ => .isTrue trivial
  | .request (.createApproval ..) _ => .isTrue trivial
  | .request (.rejectRequest ..) _ => .isTrue trivial
  | .request (.modifyApproval ..) _ => .isTrue trivial
  | .outside _ => .isTrue trivial

variable {api} {g g' : Governed} {x : ApiState}

/-- What neither decides an approval nor makes a plan pending gets nothing
stuck. -/
theorem not_stuck_of_kept (hstuck : ¬ Stuck api g)
    (hrequests : ∀ id r, g'.workflow.requests.get? id = some r → r.status = .approved →
      g.workflow.requests.get? id = some r)
    (hplans : ∀ planId plan, api.planAt g' planId = some plan →
      stateIs plan.body "pending_approval" → api.planAt g planId = some plan) : ¬ Stuck api g' := by
  rintro ⟨approvalId, request, plan, hrequest, happroved, hplan, hnames, hpending⟩
  exact hstuck ⟨approvalId, request, plan, hrequests approvalId request hrequest happroved,
    happroved, hplans request.planId plan hplan hpending, hnames, hpending⟩

variable {planId : String} {context : ApiContext}

theorem pending_of_put {args : PutArgs} {resource : StoredResource} {store : ResourceStore}
    (hkind : args.kind = "plan") (htenant : args.tenantId = api.tenantId)
    (hput : g.store.put api.env args = .ok (resource, store)) {s : String}
    (hstate : assocGet args.normalized "state" = some (.str s)) (hne : s ≠ "pending_approval")
    {plan : StoredResource} (hplan : api.planAt { g with store } planId = some plan)
    (hpending : stateIs plan.body "pending_approval") : api.planAt g planId = some plan := by
  rcases planAt_put hkind htenant hput planId with hsame | ⟨_, plan', hplan', hbody⟩
  · exact hsame.symm.trans hplan
  · cases hplan'.symm.trans hplan
    rw [hbody, stateIs_of_get hstate] at hpending
    exact absurd (of_decide_eq_true hpending) hne

theorem Handled.not_stuck {op : ApiOp} (h : Handled api g op g')
    (hvote : ∀ context approvalId data, op ≠ .approveRequest context approvalId data)
    (hsubmit : ∀ context planId submission now,
      op ≠ .submitPlanApproval context planId submission now)
    (hstuck : ¬ Stuck api g) : ¬ Stuck api g' := by
  cases h with
  | nothing => exact hstuck
  | created context id data body resource store hbody hput =>
    refine not_stuck_of_kept hstuck (fun _ _ h _ => h) fun planId plan => ?_
    refine pending_of_put rfl rfl hput (s := "draft") ?_ (by decide)
    rw [PutArgs.normalized, assocGet_docWith, if_neg (by decide)]
    exact planData_state hbody
  | validated context planId now current resource store hcurrent hdraft hput =>
    exact not_stuck_of_kept hstuck (fun _ _ h _ => h) fun planId plan =>
      pending_of_put rfl rfl hput (planArgs_state (by simp)) (by decide)
  | submitted context planId submission now => exact absurd rfl (hsubmit _ _ _ _)
  | requested context id data request hnew =>
    exact not_stuck_of_kept hstuck (fun _ _ => create_approved hnew.1) fun _ _ h _ => h
  | modified =>
    exact not_stuck_of_kept hstuck (fun _ _ => modify_approved) fun _ _ h _ => h
  | rejected =>
    exact not_stuck_of_kept hstuck (fun _ _ => reject_approved) fun _ _ h _ => h
  | planRejected context approvalId data now planId current resource store hcurrent hpending hput =>
    exact not_stuck_of_kept hstuck (fun _ _ => reject_approved) fun planId plan =>
      pending_of_put rfl rfl hput (planArgs_state (by simp)) (by decide)
  | voted | planApproved => exact absurd rfl (hvote _ _ _)

/-- A submission names its own approval, so only that could get it stuck. -/
theorem submit_not_stuck {current : StoredResource} {request : ApprovalRequest}
    (hnew : request.status = .pending)
    (hsettles : ∀ existing, g.workflow.requests.get? request.id = some existing →
      existing.planId = planId → existing.status ≠ .approved) (hstuck : ¬ Stuck api g) :
    ¬ Stuck api (api.submit context planId current request g).2 := by
  rcases submit_cases api context planId current request g with
    hsame | ⟨resource, store, workflow, _, hput, hworkflow, hafter⟩
  · rwa [hsame]
  rw [hafter]
  rintro ⟨approvalId, decided, plan, hdecided, happroved, hplan, hnames, hpending⟩
  have hbefore : g.workflow.requests.get? approvalId = some decided := by
    rcases hworkflow with rfl | rfl
    · exact hdecided
    · exact create_approved hnew hdecided happroved
  rcases planAt_put rfl rfl hput decided.planId with hsame | ⟨hid, plan', hplan', hbody⟩
  · exact hstuck ⟨approvalId, decided, plan, hbefore, happroved, hsame.symm.trans hplan, hnames,
      hpending⟩
  cases hplan'.symm.trans hplan
  by_cases hrisk : RiskLevel.L2 ≤ request.risk
  · simp only [if_pos hrisk] at hbody
    have hname : assocGet plan.body "approval_id" = some (.str request.id) := by
      rw [hbody]
      exact pendingArgs_approval_id
    have hown : request.id = approvalId := by
      simpa [namesApproval, docGetD, hname] using hnames
    subst hown
    exact hsettles decided hbefore hid happroved
  · simp only [if_neg hrisk] at hbody
    rw [hbody, stateIs_of_get (planArgs_state (by simp))] at hpending
    exact absurd (of_decide_eq_true hpending) (by decide)

theorem vote_not_stuck {amid : Interference} {approvalId : String} {data : Document}
    (hfollows : PlanFollows api amid context approvalId x.governed)
    (hstuck : ¬ Stuck api x.governed) :
    ¬ Stuck api (api.approveRequestAmid amid context approvalId data x).2.governed := by
  rcases approveRequestAmid_cases api amid context approvalId data x with
    hsame | ⟨role, now, hundecided, hafter⟩ | ⟨role, now, approval, workflow, happrove, hstatus,
      hafter⟩
  · rwa [hsame]
  · rw [hafter]
    refine not_stuck_of_kept hstuck (fun id r hr happroved => ?_) fun _ _ h _ => h
    rcases approve_decides hr happroved with h | ⟨_, hvote, _⟩
    · exact h
    · exact absurd happroved (hundecided r hvote)
  · rw [hafter]
    have hmoved := @movePlanAmid_moved api amid context approval (approvedFields now)
      { x.governed with workflow }
    rintro ⟨id, request, plan, hrequest, happroved, hplan, hnames, hpending⟩
    -- the plan is pending still, so it has not been written
    have hkept : api.planAt x.governed request.planId = some plan := by
      rcases hmoved.planAt_cases (approvedFields_state now) request.planId with
        hsame | ⟨draft, hdraft, hstate⟩ | ⟨_, next, hnext, hstate⟩
      · exact hsame.symm.trans hplan
      · cases hdraft.symm.trans hplan
        exact absurd (stateIs_unique hstate hpending) (by decide)
      · cases hnext.symm.trans hplan
        exact absurd (stateIs_unique hstate hpending) (by decide)
    rw [hmoved.workflow] at hrequest
    have hrequest : (x.governed.workflow.approve approvalId context.actorId role
        now).2.requests.get? id = some request := by rwa [happrove]
    rcases approve_decides hrequest happroved with
      hbefore | ⟨rfl, hvote, before, hbefore, hopen, hcount, hplanId⟩
    · exact hstuck ⟨id, request, plan, hbefore, happroved, hkept, hnames, hpending⟩
    rw [happrove] at hvote
    cases hvote
    rw [hplanId] at hkept
    have hunhindered := hfollows before hbefore hopen hcount plan hkept hnames hpending
    rw [← hplanId] at hkept hunhindered
    obtain ⟨next, hnext, hstate⟩ := (hmoved.reaches_iff (approvedFields_state now) (by decide)
      (by decide) hkept hpending).mpr hunhindered
    cases hnext.symm.trans hplan
    exact absurd (stateIs_unique hstate hpending) (by decide)

/-- **One step.** -/
theorem happen_not_stuck (event : ApiEvent) (hsettles : Settles api x event)
    (hstuck : ¬ Stuck api x.governed) : ¬ Stuck api (x.happen api event).governed := by
  cases event with
  | outside write =>
    refine not_stuck_of_kept hstuck (fun _ _ h _ => h) fun planId plan hplan hpending => ?_
    rcases stepOutside_plan api x.governed.store write planId with
      hsame | ⟨draft, hdraft, hstate⟩
    · exact hsame.symm.trans hplan
    · cases hdraft.symm.trans hplan
      exact absurd (stateIs_unique hstate hpending) (by decide)
  | request op amid =>
    cases op with
    | approveRequest context approvalId data => exact vote_not_stuck hsettles hstuck
    | submitPlanApproval context planId submission now =>
      show ¬ Stuck api (api.submitPlanApproval context planId submission now x).2.governed
      rcases submitPlanApproval_cases api context planId submission now x with
        hsame | ⟨current, risk, hcurrent, _, hran⟩
      · rwa [hsame]
      · rw [hran]
        exact submit_not_stuck rfl (hsettles current hcurrent) hstuck
    | createPlan | validatePlan | createApproval | rejectRequest | modifyApproval =>
      exact (step_handled api x _).not_stuck nofun nofun hstuck

/-- **Main result.** In every state where an approval is pending and its plan
too, and for every call that decides the approval: repeating the request gets
the plan to approved at some time exactly when nothing stands in the way of
the plan's put in the deciding call. And no run whose events all settle ends
with an APPROVED approval whose own plan is pending. -/
theorem approveRequest_converges_iff (api : GovernanceApi) :
    (∀ x amid context approvalId data request plan,
      x.governed.workflow.requests.get? approvalId = some request → request.status = .pending →
      api.planAt x.governed request.planId = some plan →
      GovernanceApi.stateIs plan.body "pending_approval" →
      Decided (api.approveRequestAmid amid context approvalId data x).2.governed approvalId →
      ((∃ retries, api.PlanIn (api.repeated context approvalId data
          (api.approveRequestAmid amid context approvalId data x).2 retries).governed.store
          request.planId "approved") ↔
        Unhindered api amid context request.planId plan x.governed.store)) ∧
    (∀ events, Guarded (ApiState.happen api) (Settles api) .empty events →
      ¬ Stuck api (run (ApiState.happen api) .empty events).governed) := by
  refine ⟨?_, ?_⟩
  · intro x amid context approvalId data request plan hrequest hpending hplan hstate hdecided
    simp only [repeated_of_decided hdecided, exists_const]
    exact vote_reaches_iff hrequest hpending hplan hstate hdecided
  · intro events hguarded
    refine guarded_invariant (P := fun x : ApiState => ¬ Stuck api x.governed)
      (fun x event hsettles hstuck => happen_not_stuck event hsettles hstuck) events .empty
      hguarded ?_
    rintro ⟨approvalId, request, plan, hrequest, _⟩
    simp [ApiState.empty, ApprovalWorkflow.empty] at hrequest

end

/-! ## Concrete votes -/

/-- The plan of `submissionOps` with the vote of one of two operators. -/
def oneVoteShort : ApiState :=
  run (ApiState.step sampleApi) .empty
    (submissionOps ++ [vote "bob" "bob-votes" "approval-plan-1-3" (by decide)])

def lastVoter : ApiContext :=
  operator "carol" "carol-votes" none (by decide)

def lastVote : Document :=
  [("role", .str "operator"), ("now", .str "2026-01-01T00:00:00+00:00")]

/-- The approval has one vote to get, and its plan is pending. -/
def AwaitsLastVote (api : GovernanceApi) (g : Governed) (approvalId planId : String) : Prop :=
  ∃ request plan, g.workflow.requests.get? approvalId = some request ∧
    request.status = .pending ∧ (request.approvals.length : Int) + 1 = request.requiredCount ∧
    request.planId = planId ∧ api.planAt g planId = some plan ∧
    GovernanceApi.namesApproval plan.body approvalId ∧
    GovernanceApi.stateIs plan.body "pending_approval"

theorem oneVoteShort_awaits :
    AwaitsLastVote sampleApi oneVoteShort.governed "approval-plan-1-3" "plan-1" := by
  have hstate : (oneVoteShort.governed.workflow.requests.get? "approval-plan-1-3").any
      (fun request => decide (request.status = .pending ∧
        (request.approvals.length : Int) + 1 = request.requiredCount ∧
        request.planId = "plan-1")) = true ∧
      (sampleApi.planAt oneVoteShort.governed "plan-1").any (fun plan =>
        namesApproval plan.body "approval-plan-1-3" &&
        stateIs plan.body "pending_approval") = true := by decide +kernel
  obtain ⟨hrequest, hplan⟩ := hstate
  obtain ⟨request, hrequest, hfacts⟩ := (any_eq_true _ _).mp hrequest
  obtain ⟨hstatus, hcount, hplanId⟩ := of_decide_eq_true hfacts
  obtain ⟨plan, hplan, hpending⟩ := (any_eq_true _ _).mp hplan
  obtain ⟨hnames, hpending⟩ := Bool.and_eq_true_iff.mp hpending
  exact ⟨request, plan, hrequest, hstatus, hcount, hplanId, hplan, hnames, hpending⟩

/-- A vote that nothing happens to, on a plan that is then approved; and the
run of two votes. -/
theorem approveRequest_converges_iff_lastVote :
    (∃ retries, sampleApi.PlanIn (sampleApi.repeated lastVoter "approval-plan-1-3" lastVote
      (sampleApi.approveRequestAmid .quiet lastVoter "approval-plan-1-3" lastVote oneVoteShort).2
      retries).governed.store "plan-1" "approved") ∧
    ¬ Stuck sampleApi (run (ApiState.happen sampleApi) .empty
      (approvalOps.map fun op => .request op .quiet)).governed := by
  obtain ⟨request, plan, hrequest, hstatus, _, hplanId, hplan, _, hpending⟩ := oneVoteShort_awaits
  obtain ⟨hconverges, hruns⟩ := approveRequest_converges_iff sampleApi
  refine ⟨?_, hruns _ ?_⟩
  · have hdecided : ((sampleApi.approveRequestAmid .quiet lastVoter "approval-plan-1-3" lastVote
        oneVoteShort).2.governed.workflow.requests.get? "approval-plan-1-3").any
          (fun approval => decide (approval.status = .approved)) = true := by decide +kernel
    obtain ⟨approval, happroval, happroved⟩ := (any_eq_true _ _).mp hdecided
    have hkey : (oneVoteShort.governed.store.idempotency.get?
        ("tenant-one", "carol-votes:plan")).isNone := by decide +kernel
    rw [← hplanId] at hplan ⊢
    refine (hconverges oneVoteShort .quiet lastVoter "approval-plan-1-3" lastVote request plan
      hrequest hstatus hplan hpending ⟨approval, happroval, of_decide_eq_true happroved⟩).mpr
      ⟨rfl, rfl, isNone_iff_eq_none.mp hkey, ?_⟩
    intro latest hlatest
    cases hplan.symm.trans hlatest
    rfl
  · decide +kernel

/-- The same vote while the store cannot be written. -/
def failedVote : Except PyError Response × ApiState :=
  sampleApi.approveRequestAmid { writeFailure := some (.databaseError "OperationalError") }
    lastVoter "approval-plan-1-3" lastVote oneVoteShort

/-- The call raises after the approval became APPROVED, and however often the
request is repeated, the plan stays pending. -/
theorem failed_put_leaves_plan_pending :
    AwaitsLastVote sampleApi oneVoteShort.governed "approval-plan-1-3" "plan-1" ∧
    failedVote.1 = .error (.databaseError "OperationalError") ∧
    Decided failedVote.2.governed "approval-plan-1-3" ∧
    ∀ retries, Stuck sampleApi (sampleApi.repeated lastVoter "approval-plan-1-3" lastVote
      failedVote.2 retries).governed := by
  have hraised : failedVote.1 = .error (.databaseError "OperationalError") := by rfl
  have hafter : (failedVote.2.governed.workflow.requests.get? "approval-plan-1-3").any
      (fun request => decide (request.status = .approved ∧ request.planId = "plan-1")) = true ∧
      (sampleApi.planAt failedVote.2.governed "plan-1").any (fun plan =>
        namesApproval plan.body "approval-plan-1-3" &&
        stateIs plan.body "pending_approval") = true := by decide +kernel
  obtain ⟨hrequest, hplan⟩ := hafter
  obtain ⟨request, hrequest, hfacts⟩ := (any_eq_true _ _).mp hrequest
  obtain ⟨happroved, hplanId⟩ := of_decide_eq_true hfacts
  obtain ⟨plan, hplan, hpending⟩ := (any_eq_true _ _).mp hplan
  obtain ⟨hnames, hpending⟩ := Bool.and_eq_true_iff.mp hpending
  have hdecided : Decided failedVote.2.governed "approval-plan-1-3" :=
    ⟨request, hrequest, happroved⟩
  refine ⟨oneVoteShort_awaits, hraised, hdecided, fun retries => ?_⟩
  rw [repeated_of_decided hdecided]
  exact ⟨"approval-plan-1-3", request, plan, hrequest, happroved, hplanId ▸ hplan, hnames, hpending⟩

end ComputeWeaver.Api
