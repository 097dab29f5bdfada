/-
Api.KeyBindingTheorems — which requests under one idempotency key
are answered from one another's record.

A record is bound to what its digest covers, and the digest covers the intent
of the request, or what a write stores. The intents leave things out: most of them
the id in the path, the evidence request its requirements, an execution everything
of the action but its id and parameters; a stored plan has fields of its own in place
of those of the request, and a stored result says nothing of the data it came from.
`SameLeftOut` says that two requests agree on what is left out, and the main result
is that this decides whether a recorded response belongs to the second request as well.

The operation is stored next to the digest. It names the endpoint
(`Endpoint.eq_of_operation`), with one exception: an operation on a simulation
whose name is `create` has the operation of the endpoint that creates one.
-/
import ComputeWeaver.Api.ActionsTheorems
import ComputeWeaver.Api.KeyBinding
import ComputeWeaver.Execution.IdempotencyTheorems
import ComputeWeaver.Lib.Json

namespace ComputeWeaver.Api

open Lib Persistence Execution KeyTables KeyedRequest GovernanceApi Dict

/-! ## Operations and endpoints -/

namespace Endpoint

/-- Every endpoint but the operations on a simulation. -/
def fixed : List Endpoint :=
  ([.createSimulation, .recoveryPlan, .configureQuota, .createMpcCycle, .publishPolicy,
    .createApproval, .approveRequest, .rejectRequest, .registerModel, .promoteModel,
    .rollbackModel] : List BodyEndpoint).map body ++
  [enqueueSystemJob, putArtifact, createTopologyDraft, publishTopology, syncConnector,
    rollbackAdminConfig, publishTariff, validateGovernedPlan, compareGovernedPlans,
    submitPlanApproval, modifyApproval, testComputeConnector, syncComputeConnector, cancelAction,
    requestCertificationEvidence, runCertification, publishCertification, revokeCertification]

/-- Two endpoints with one operation. -/
def Clash (e e' : Endpoint) : Prop :=
  (e = .body .createSimulation ∧ e' = .body (.operateSimulation "create")) ∨
    (e = .body (.operateSimulation "create") ∧ e' = .body .createSimulation)

theorem not_clash_self (e : Endpoint) : ¬ Clash e e := by
  rintro (⟨rfl, h⟩ | ⟨rfl, h⟩) <;> cases h

variable {e e' : Endpoint}

theorem Clash.symm (h : Clash e e') : Clash e' e :=
  Or.symm (h.imp And.symm And.symm)

theorem fixed_or_simulation (e : Endpoint) :
    e ∈ fixed ∨ ∃ operation, e = .body (.operateSimulation operation) := by
  cases e with
  | body endpoint =>
    cases endpoint with
    | operateSimulation operation => exact .inr ⟨operation, rfl⟩
    | _ => exact .inl (by decide)
  | _ => exact .inl (by decide)

theorem fixed_injective (he : e ∈ fixed) (he' : e' ∈ fixed) (h : e.operation = e'.operation) :
    e = e' :=
  List.inj_on_of_nodup_map (by decide +kernel : (fixed.map operation).Nodup) he he' h

theorem fixed_simulation : ∀ e ∈ fixed,
    "simulation.".toList <+: e.operation.toList → e = .body .createSimulation := by
  decide +kernel

theorem clash_of_fixed {operation : String} (he : e ∈ fixed)
    (h : e.operation = (body (.operateSimulation operation)).operation) :
    Clash e (.body (.operateSimulation operation)) := by
  have hlist : e.operation.toList = "simulation.".toList ++ operation.toList := by
    rw [h, ← String.toList_append]
    rfl
  have hcreate : e = .body .createSimulation :=
    fixed_simulation e he ⟨operation.toList, hlist.symm⟩
  subst hcreate
  have hcreate : "simulation.".toList ++ "create".toList =
      "simulation.".toList ++ operation.toList := by
    rw [← hlist]
    decide
  rw [← String.toList_injective (List.append_cancel_left hcreate)]
  exact .inl ⟨rfl, rfl⟩

theorem eq_of_operation (h : e.operation = e'.operation) (hclash : ¬ Clash e e') : e = e' := by
  rcases fixed_or_simulation e with he | ⟨operation, rfl⟩
  · rcases fixed_or_simulation e' with he' | ⟨operation', rfl⟩
    · exact fixed_injective he he' h
    · exact absurd (clash_of_fixed he h) hclash
  rcases fixed_or_simulation e' with he' | ⟨operation', rfl⟩
  · exact absurd (clash_of_fixed he' h.symm).symm hclash
  have hlist : "simulation.".toList ++ operation.toList =
      "simulation.".toList ++ operation'.toList := by
    rw [← String.toList_append, ← String.toList_append]
    exact congrArg String.toList h
  rw [String.toList_injective (List.append_cancel_left hlist)]

end Endpoint

/-! ## What a digest covers -/

namespace AuditedRequest

/-- The endpoints with the resource in the intent. -/
def namesResource : AuditedRequest → Bool
  | publishTopology .. => true
  | requestCertificationEvidence .. => true
  | runCertification .. => true
  | publishCertification .. => true
  | revokeCertification .. => true
  | _ => false

/-- The content that the intent leaves out. -/
def unhashed : AuditedRequest → Document
  | requestCertificationEvidence _ _ requirements validForHours =>
      [("requirements", .dict requirements), ("valid_for_hours", .int validForHours)]
  | _ => []

/-- The requests address the same resource with the same content. -/
structure SameRequest (q q' : AuditedRequest) : Prop where
  endpoint : q.endpoint = q'.endpoint
  resource : q.resource = q'.resource
  content : Value.Same (.dict q.content) (.dict q'.content)

/-- The requests agree in what operation and intent leave out. -/
structure SameLeftOut (q q' : AuditedRequest) : Prop where
  endpoint : ¬ Endpoint.Clash q.endpoint q'.endpoint
  resource : q.namesResource = false → q.resource = q'.resource
  content : Value.Same (.dict q.unhashed) (.dict q'.unhashed)

variable {q q' : AuditedRequest}

/-- Resource and content of a request can be read off its intent and what the
intent leaves out. -/
theorem intent_determines (hendpoint : q.endpoint = q'.endpoint)
    (hintent : Value.Same (.dict q.intent) (.dict q'.intent)) :
    (q.namesResource = true → q.resource = q'.resource) ∧
      (Value.Same (.dict q.content) (.dict q'.content) ↔
        Value.Same (.dict q.unhashed) (.dict q'.unhashed)) := by
  cases q <;> cases q' <;> simp only [endpoint, reduceCtorEq] at hendpoint
  case body.body => exact ⟨nofun, iff_of_true hintent (by simp [unhashed, Value.Same, Value.Rel,
    Value.RelItems])⟩
  all_goals
    simp [namesResource, resource, content, unhashed, intent, Service.SyncRequest.intent,
      submissionDocument, Value.same_fields, Value.RelItems, assocGet] at hintent ⊢
  all_goals simp_all

theorem sameRequest_iff (hoperation : q.endpoint.operation = q'.endpoint.operation)
    (hintent : Value.Same (.dict q.intent) (.dict q'.intent)) :
    SameRequest q q' ↔ SameLeftOut q q' := by
  constructor
  · intro h
    refine ⟨?_, fun _ => h.resource, (intent_determines h.endpoint hintent).2.mp h.content⟩
    rw [h.endpoint]
    exact Endpoint.not_clash_self _
  · intro h
    have hendpoint := Endpoint.eq_of_operation hoperation h.endpoint
    obtain ⟨hnamed, hcontent⟩ := intent_determines hendpoint hintent
    refine ⟨hendpoint, ?_, hcontent.mpr h.content⟩
    cases hnames : q.namesResource with
    | true => exact hnamed hnames
    | false => exact h.resource hnames

end AuditedRequest

namespace WriteRequest

/-- The fields of a plan that the handler sets itself. -/
def planKeys : List String :=
  ["state", "risk", "policy_versions", "hard_violations", "required_approvers", "created_by"]

theorem keys_planFields (fields : PlanFields) : fields.document.map Prod.fst = planKeys := rfl

/-- The handler puts such fields over the data. -/
theorem planData_fields {api : GovernanceApi} {context : ApiContext} {data body : Document}
    (h : api.planData context data = .ok body) :
    ∃ fields : PlanFields, fields.createdBy = context.actorId ∧
      body = docUpdate data fields.document := by
  obtain ⟨number, -, h⟩ := bind_eq_ok.mp h
  obtain ⟨risk, -, h⟩ := bind_eq_ok.mp h
  obtain ⟨policyVersions, -, h⟩ := bind_eq_ok.mp h
  obtain ⟨hardViolations, -, h⟩ := bind_eq_ok.mp h
  obtain ⟨requiredApprovers, -, h⟩ := bind_eq_ok.mp h
  dsimp only at h
  split at h
  · cases h
  · cases h
    exact ⟨⟨risk, policyVersions, hardViolations, requiredApprovers, context.actorId⟩, rfl, rfl⟩

/-- The requests address the same resource with the same content. -/
structure SameRequest (w w' : WriteRequest) : Prop where
  endpoint : w.endpoint = w'.endpoint
  resource : w.resourceId = w'.resourceId
  content : Value.Same (.dict w.content) (.dict w'.content)

/-- The requests agree in the content that is not stored. -/
def SameUnstored : WriteRequest → WriteRequest → Prop
  | collection .., collection .. => True
  | cancelJob _ bodyId _, cancelJob _ bodyId' _ => bodyId = bodyId'
  | createGovernedPlan _ data _ _, createGovernedPlan _ data' _ _ =>
      ∀ key ∈ planKeys, Option.Rel Value.Same (assocGet data key) (assocGet data' key)
  | computed _ _ data _, computed _ _ data' _ => Value.Same (.dict data) (.dict data')
  | callback _ _ _ data _, callback _ _ _ data' _ => Value.Same (.dict data) (.dict data')
  | _, _ => False

/-- The requests agree in what kind, id and stored body leave out. -/
structure SameLeftOut (w w' : WriteRequest) : Prop where
  endpoint : w.endpoint = w'.endpoint
  content : SameUnstored w w'

/-- The data of a plan can be read off the stored plan and the fields it replaces. -/
theorem same_planData {data data' : Document} {fields fields' : PlanFields}
    (hnodup : (data.map Prod.fst).Nodup)
    (hbody : Value.Same (.dict (docUpdate data fields.document))
      (.dict (docUpdate data' fields'.document))) :
    Value.Same (.dict data) (.dict data') ↔
      ∀ key ∈ planKeys, Option.Rel Value.Same (assocGet data key) (assocGet data' key) := by
  have hstored := (Value.rel_dict_iff (nodup_docUpdate hnodup _)).mp hbody
  refine (Value.rel_dict_iff hnodup).trans ⟨fun h key _ => h key, fun h key => ?_⟩
  by_cases hkey : key ∈ planKeys
  · exact h key hkey
  · have hsame := hstored key
    rwa [assocGet_docUpdate_of_not_mem (by rwa [keys_planFields]),
      assocGet_docUpdate_of_not_mem (by rwa [keys_planFields])] at hsame

variable {w w' : WriteRequest}

theorem sameRequest_iff (hresource : w.resourceId = w'.resourceId)
    (hbody : Value.Same (.dict w.body) (.dict w'.body)) :
    SameRequest w w' ↔ SameLeftOut w w' := by
  have hcontent : w.endpoint = w'.endpoint →
      (Value.Same (.dict w.content) (.dict w'.content) ↔ SameUnstored w w') := by
    intro hendpoint
    cases w <;> cases w' <;> simp only [endpoint, reduceCtorEq] at hendpoint
    case collection.collection => exact iff_of_true hbody trivial
    case cancelJob.cancelJob =>
      have hdata : Value.Rel Eq _ _ := hbody
      simp only [body] at hdata
      simp [content, SameUnstored, Value.same_fields, Value.RelItems, assocGet, hdata]
    case createGovernedPlan.createGovernedPlan data fields hnodup _ data' fields' hnodup' =>
      exact same_planData hnodup hbody
    case computed.computed => exact Iff.rfl
    case callback.callback => exact Iff.rfl
  constructor
  · exact fun h => ⟨h.endpoint, (hcontent h.endpoint).mp h.content⟩
  · exact fun h => ⟨h.endpoint, hresource, (hcontent h.endpoint).mpr h.content⟩

end WriteRequest

namespace KeyedRequest

variable (api : ActionApi)

/-- The operation that is stored next to the digest. -/
def label : KeyedRequest → String
  | audited _ request _ => request.endpoint.operation
  | execute .. => ""
  | write .. => ""

def hashed : KeyedRequest → Document
  | audited _ request _ => request.intent
  | execute action _ => (api.executeArgs action).intent
  | write _ _ request =>
      [("kind", .str request.endpoint.kind), ("resource_id", .str request.resourceId),
        ("body", .dict request.body)]

/-- What a record is compared with. -/
def fingerprint (request : KeyedRequest) : String × String :=
  (request.label, api.env.digest (.dict (request.hashed api)))

def SameOtherwise (action action' : Action) : Prop :=
  { action with id := action'.id, parameters := action'.parameters } = action'

/-- The requests address the same resource with the same content. Requests of
different tables do not. -/
def SameRequest : KeyedRequest → KeyedRequest → Prop
  | audited _ request rest, audited _ request' rest' =>
      request.SameRequest request' ∧ Value.Same (.dict rest) (.dict rest')
  | execute action rest, execute action' rest' =>
      action.id = action'.id ∧ Value.Same (.dict action.parameters) (.dict action'.parameters) ∧
        SameOtherwise action action' ∧ Value.Same (.dict rest) (.dict rest')
  | write _ _ request, write _ _ request' => request.SameRequest request'
  | _, _ => False

/-- The requests agree in what their fingerprints leave out. -/
def SameLeftOut : KeyedRequest → KeyedRequest → Prop
  | audited _ request rest, audited _ request' rest' =>
      request.SameLeftOut request' ∧ Value.Same (.dict rest) (.dict rest')
  | execute action rest, execute action' rest' =>
      SameOtherwise action action' ∧ Value.Same (.dict rest) (.dict rest')
  | write _ _ request, write _ _ request' => request.SameLeftOut request'
  | _, _ => False

end KeyedRequest

/-! ## The records -/

/-- The place of a record. -/
inductive KeyEntry where
  | operation (identity : String × String)
  | execution (identity : String × String)
  | resource (identity : String × String)
  deriving DecidableEq

def KeyedRequest.entry (api : ActionApi) : KeyedRequest → KeyEntry
  | audited key _ _ => .operation (api.tenantId, key)
  | execute action _ => .execution (api.executeArgs action).identity
  | write key _ _ => .resource (api.tenantId, key)

/-- The record of an entry: fingerprint and response. -/
def KeyTables.lookup {ρ τ : Type} (x : KeyTables ρ τ) :
    KeyEntry → Option ((String × String) × Reply ρ τ)
  | .operation identity => (x.operations.get? identity).map fun record =>
      ((record.1, record.2.1), .returned record.2.2)
  | .execution identity => (x.executions.results.get? identity).map fun record =>
      (("", record.1), .executed record.2)
  | .resource identity => (x.store.idempotency.get? identity).map fun record =>
      (("", record.1), .stored record.2)

section

variable {ρ τ : Type} (api : ActionApi)

/-- What serving a request does to the records. -/
inductive ServeEffect (x : KeyTables ρ τ) (request : KeyedRequest) :
    Served ρ τ → KeyTables ρ τ → Prop
  | raised (e : PyError) (y : KeyTables ρ τ) (hsame : ∀ entry, y.lookup entry = x.lookup entry) :
      ServeEffect x request (.raised e) y
  | recorded (reply : Reply ρ τ)
      (hrecord : x.lookup (request.entry api) = some (request.fingerprint api, reply)) :
      ServeEffect x request (.recorded reply) x
  | ran (reply : Reply ρ τ) (y : KeyTables ρ τ) (hnone : x.lookup (request.entry api) = none)
      (hrecord : y.lookup (request.entry api) = some (request.fingerprint api, reply))
      (hothers : ∀ entry, entry ≠ request.entry api → y.lookup entry = x.lookup entry) :
      ServeEffect x request (.ran reply) y

theorem audited_effect (x : KeyTables ρ τ) (outcome : KeyedOutcome ρ τ) (key : String)
    (request : AuditedRequest) (rest : Document) :
    ServeEffect api x (.audited key request rest)
      (x.serve api outcome (.audited key request rest)).1
      (x.serve api outcome (.audited key request rest)).2 := by
  rcases executeMemory_cases api.env (request.args api.tenantId key)
    (fun calls : Nat => (outcome.callback, calls + 1)) x.operations 0 with
    ⟨e, calls, hout⟩ | ⟨result, hout, _, hrecord⟩ | ⟨result, calls, hout, _, hcallback, hnone⟩
  · simp only [serve, hout]
    exact .raised e x fun _ => rfl
  · simp only [serve, hout, if_true]
    refine .recorded (.returned result) ?_
    rw [entry, lookup]
    exact hrecord ▸ rfl
  · have hcalls : calls ≠ 0 := by
      rw [← (Prod.mk.inj hcallback).2]
      exact Nat.succ_ne_zero 0
    simp only [serve, hout, if_neg hcalls]
    refine .ran (.returned result) _ ?_ ?_ ?_
    · rw [entry, lookup]
      exact hnone ▸ rfl
    · show ((x.operations.set (api.tenantId, key) _).get? (api.tenantId, key)).map _ = _
      rw [get?_set_self]
      rfl
    · intro entry hne
      cases entry with
      | operation identity =>
        have hkey : (api.tenantId, key) ≠ identity := fun h => hne (h ▸ rfl)
        show ((x.operations.set (api.tenantId, key) _).get? identity).map _ = _
        rw [get?_set_ne _ _ hkey]
        rfl
      | execution identity => rfl
      | resource identity => rfl

theorem execute_effect (x : KeyTables ρ τ) (outcome : KeyedOutcome ρ τ) (action : Action)
    (rest : Document) :
    ServeEffect api x (.execute action rest) (x.serve api outcome (.execute action rest)).1
      (x.serve api outcome (.execute action rest)).2 := by
  rcases start_cases api.env x.executions (api.executeArgs action) with
    ⟨e, hstart⟩ | ⟨result, hstart, _, hrecord⟩ | ⟨hstart, _, hnone, _⟩
  · simp only [serve, hstart]
    exact .raised e x fun _ => rfl
  · simp only [serve, hstart]
    refine .recorded (.executed result) ?_
    rw [entry, lookup]
    exact hrecord ▸ rfl
  · simp only [serve, hstart]
    cases outcome.adapter with
    | error e =>
      refine .raised e _ fun entry => ?_
      cases entry <;> rfl
    | ok result =>
      refine .ran (.executed result) _ ?_ ?_ ?_
      · rw [entry, lookup]
        exact hnone ▸ rfl
      · show ((x.executions.results.set _ _).get? _).map _ = _
        rw [get?_set_self]
        rfl
      · intro entry hne
        cases entry with
        | operation identity => rfl
        | execution identity =>
          have hkey : (api.executeArgs action).identity ≠ identity := fun h => hne (h ▸ rfl)
          show ((x.executions.results.set (api.executeArgs action).identity _).get? identity).map _
            = _
          rw [get?_set_ne _ _ hkey]
          rfl
        | resource identity => rfl

theorem write_effect (x : KeyTables ρ τ) (outcome : KeyedOutcome ρ τ) (key : String)
    (ifMatch : Option String) (request : WriteRequest) :
    ServeEffect api x (.write key ifMatch request)
      (x.serve api outcome (.write key ifMatch request)).1
      (x.serve api outcome (.write key ifMatch request)).2 := by
  cases hput : x.store.put api.env (request.args api.tenantId key ifMatch) with
  | error e =>
    simp only [serve, hput]
    exact .raised e x fun _ => rfl
  | ok out =>
    obtain ⟨resource, store⟩ := out
    simp only [serve, hput]
    cases ResourceStore.put_effect hput with
    | replayed resource hkey =>
      change x.store.idempotency.get? (api.tenantId, key) = _ at hkey
      rw [if_pos (contains_eq_true.mpr ⟨_, hkey⟩)]
      refine .recorded (.stored resource) ?_
      rw [entry, lookup, hkey]
      rfl
    | stored hkey hmatch =>
      change x.store.idempotency.get? (api.tenantId, key) = _ at hkey
      rw [if_neg (by simp [contains, hkey])]
      refine .ran (.stored _) _ ?_ ?_ ?_
      · rw [entry, lookup, hkey]
        rfl
      · show ((x.store.idempotency.set (api.tenantId, key) _).get? (api.tenantId, key)).map _ = _
        rw [get?_set_self]
        rfl
      · intro entry hne
        cases entry with
        | operation identity => rfl
        | execution identity => rfl
        | resource identity =>
          have hkey : (api.tenantId, key) ≠ identity := fun h => hne (h ▸ rfl)
          show ((x.store.idempotency.set (api.tenantId, key) _).get? identity).map _ = _
          rw [get?_set_ne _ _ hkey]
          rfl

theorem serve_effect (x : KeyTables ρ τ) (outcome : KeyedOutcome ρ τ) (request : KeyedRequest) :
    ServeEffect api x request (x.serve api outcome request).1 (x.serve api outcome request).2 := by
  cases request with
  | audited key request rest => exact audited_effect api x outcome key request rest
  | execute action rest => exact execute_effect api x outcome action rest
  | write key ifMatch request => exact write_effect api x outcome key ifMatch request

variable {request : KeyedRequest} {x y : KeyTables ρ τ} {outcome : KeyedOutcome ρ τ}
  {reply : Reply ρ τ}

theorem step_keeps_lookup {entry : KeyEntry} {record : (String × String) × Reply ρ τ}
    (op : KeyedOp ρ τ) (h : x.lookup entry = some record) :
    (x.step api op).lookup entry = some record := by
  cases op with
  | serve request outcome =>
    show (x.serve api outcome request).2.lookup entry = some record
    have heffect := serve_effect api x outcome request
    generalize x.serve api outcome request = out at heffect
    obtain ⟨served, y⟩ := out
    cases heffect with
    | raised e _ hsame => exact (hsame entry).trans h
    | recorded reply hrecord => exact h
    | ran reply _ hnone hrecord hothers =>
      have hne : entry ≠ request.entry api := by
        rintro rfl
        cases hnone.symm.trans h
      exact (hothers entry hne).trans h
  | cancel actionId actorId reason =>
    rw [← h]
    cases entry with
    | operation identity => rfl
    | resource identity => rfl
    | execution identity =>
      simp only [step, lookup]
      rcases cancel_cases x.executions actionId api.tenantId actorId reason with
        ⟨e, hcancel⟩ | ⟨cancellation, hcancel, _, _⟩
      · rw [hcancel]
      · rw [hcancel]

theorem lookup_of_ran (h : x.serve api outcome request = (.ran reply, y)) :
    y.lookup (request.entry api) = some (request.fingerprint api, reply) := by
  have heffect := serve_effect api x outcome request
  rw [h] at heffect
  cases heffect with
  | ran _ _ _ hrecord _ => exact hrecord

theorem lookup_of_recorded (h : x.serve api outcome request = (.recorded reply, y)) :
    x.lookup (request.entry api) = some (request.fingerprint api, reply) := by
  have heffect := serve_effect api x outcome request
  rw [h] at heffect
  cases heffect with
  | recorded _ hrecord => exact hrecord

/-- Under one entry and fingerprint, the digested documents being the same, two
requests are the same when they agree in what the fingerprint leaves out. -/
theorem sameRequest_iff_sameLeftOut {first second : KeyedRequest}
    (hentry : second.entry api = first.entry api) (hlabel : first.label = second.label)
    (hhashed : Value.Same (.dict (first.hashed api)) (.dict (second.hashed api))) :
    first.SameRequest second ↔ first.SameLeftOut second := by
  cases first with
  | audited key request rest =>
    cases second with
    | audited key' request' rest' =>
      exact and_congr_left fun _ => AuditedRequest.sameRequest_iff hlabel hhashed
    | _ => cases hentry
  | execute action rest =>
    cases second with
    | execute action' rest' =>
      have hcovered : action.id = action'.id ∧
          Value.Rel Eq (.dict action.parameters) (.dict action'.parameters) := by
        simpa [hashed, ActionApi.executeArgs, Value.same_fields, Value.RelItems,
          assocGet] using hhashed
      exact ⟨fun h => h.2.2, fun h => ⟨hcovered.1, hcovered.2, h⟩⟩
    | _ => cases hentry
  | write key ifMatch request =>
    cases second with
    | write key' ifMatch' request' =>
      have hcovered : request.endpoint.kind = request'.endpoint.kind ∧
          request.resourceId = request'.resourceId ∧
          Value.Rel Eq (.dict request.body) (.dict request'.body) := by
        simpa [hashed, Value.same_fields, Value.RelItems, assocGet] using hhashed
      exact WriteRequest.sameRequest_iff hcovered.2.1 hcovered.2.2
    | _ => cases hentry

/-- **Main result.** A request ran under a key, any requests followed, and then
a request of the same tenant, key and table is answered with a recorded
response. It is the response of the first request; and the two address the
same resource with the same content exactly when they agree in what their
digests leave out. -/
theorem answered_same_request_iff (api : ActionApi) (x y : KeyTables ρ τ)
    (first second : KeyedRequest) (outcome outcome' : KeyedOutcome ρ τ) (reply reply' : Reply ρ τ)
    (between : List (KeyedOp ρ τ)) (hentry : second.entry api = first.entry api)
    (hfirst : x.serve api outcome first = (.ran reply, y))
    (hsecond : ((run (KeyTables.step api) y between).serve api outcome' second).1 =
      .recorded reply')
    (hdigest : api.env.digest (.dict (first.hashed api)) =
        api.env.digest (.dict (second.hashed api)) →
      Value.Same (.dict (first.hashed api)) (.dict (second.hashed api))) :
    reply' = reply ∧ (first.SameRequest second ↔ first.SameLeftOut second) := by
  have hrecord : (run (step api) y between).lookup (first.entry api) =
      some (first.fingerprint api, reply) :=
    run_invariant (P := fun z : KeyTables ρ τ => z.lookup (first.entry api) =
      some (first.fingerprint api, reply)) (fun z op hz => step_keeps_lookup api op hz) between y
      (lookup_of_ran api hfirst)
  have hanswer : (run (step api) y between).lookup (second.entry api) =
      some (second.fingerprint api, reply') := lookup_of_recorded api (Prod.ext hsecond rfl)
  rw [hentry, hrecord] at hanswer
  obtain ⟨hprint, hreply⟩ := Prod.mk.inj (Option.some.inj hanswer)
  obtain ⟨hlabel, hhash⟩ := Prod.mk.inj hprint
  exact ⟨hreply.symm, sameRequest_iff_sameLeftOut api hentry hlabel (hdigest hhash)⟩

end

/-! ## Concrete requests -/

def voteData : Document :=
  [("role", .str "operator"), ("now", .str "2026-01-01T00:00:00+00:00")]

def voteOn (approvalId : String) : KeyedRequest :=
  .audited "approve-1" (.body .approveRequest approvalId voteData) [("id", .str "vote-1")]

/-- A vote that is sent again. -/
theorem answered_same_request_iff_voteOn :
    (voteOn "approval-1").SameRequest (voteOn "approval-1") := by
  have hsame : Value.Same (.dict voteData) (.dict voteData) := by
    simp [voteData, Value.same_fields, Value.RelItems, assocGet]
  have h := answered_same_request_iff sampleActionApi ⟨.empty, .empty, .empty⟩ _
    (voteOn "approval-1") (voteOn "approval-1") ⟨.ok 1, .ok 2⟩ ⟨.ok 3, .ok 4⟩
    (.returned 1 : Reply Nat Nat) (.returned 1) [.cancel "action-1" "bob" "wrong target"] rfl rfl
    rfl fun _ => hsame
  exact h.2.mpr ⟨⟨Endpoint.not_clash_self _, fun _ => rfl,
    by simp [AuditedRequest.unhashed, Value.same_fields, Value.RelItems]⟩,
    by simp [Value.same_fields, Value.RelItems, assocGet]⟩

def pendingApproval (idempotencyKey approvalId planId : String)
    (key_length : 8 ≤ idempotencyKey.length) : ApiOp :=
  .createApproval (operator "alice" idempotencyKey none key_length) approvalId
    [("plan_id", .str planId), ("risk", .int 2),
      ("expires_at", .str "2026-01-02T00:00:00+00:00"),
      ("required_roles", .list [.str "operator"]), ("required_count", .int 2)]

def votedOps : List ApiOp :=
  [pendingApproval "pending-1" "approval-1" "plan-1" (by decide),
   pendingApproval "pending-2" "approval-2" "plan-2" (by decide),
   vote "bob" "approve-1" "approval-1" (by decide)]

/-- The approval that the response shows a vote on. -/
def Response.votedOn : Response → Option String
  | .decision request _ => some request.id
  | _ => none

/-- A vote on the second approval, under the key of the vote on the first, is
answered with that vote; the second approval has no votes. -/
theorem vote_answered_from_other_approval :
    (sampleApi.approveRequest (operator "bob" "approve-1" none (by decide)) "approval-2" voteData
        (run (ApiState.step sampleApi) .empty votedOps)).1.toOption.bind Response.votedOn =
      some "approval-1" ∧
    ((sampleApi.approveRequest (operator "bob" "approve-1" none (by decide)) "approval-2" voteData
        (run (ApiState.step sampleApi) .empty votedOps)).2.governed.workflow.requests.get?
          "approval-2").map (fun request => request.approvals) = some [] ∧
    ¬ (voteOn "approval-1").SameRequest (voteOn "approval-2") := by
  refine ⟨by decide +kernel, by decide +kernel, ?_⟩
  rintro ⟨⟨_, hresource, _⟩, _⟩
  exact absurd hresource (by decide)

end ComputeWeaver.Api
