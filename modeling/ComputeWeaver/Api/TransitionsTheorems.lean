/-
Api.TransitionsTheorems — when a retried state transition is
answered with its recorded response.

A record of the idempotency table is never replaced, so it is there for the
retry, whatever happened in between. The table compares the recorded digest
with that of the intent the retry computes, and this intent names the version
(and etag, cursor, watermark) that is stored NOW. `SameGround` says which part
of the state has to be as the first call found it.
-/
import ComputeWeaver.Api.GovernanceTheorems
import ComputeWeaver.Api.Transitions

namespace ComputeWeaver.Api

open Lib Risk Approval Persistence Service GovernanceApi Option

variable {ι ε : Type} (service : Service ι ε)

/-! ## Intents -/

def Transition.operation : Transition → String
  | .validatePlan _ => "plan.validate"
  | .submitPlanApproval _ _ => "plan.submit_approval"
  | .publishTariff _ => "tariff.publish"
  | .syncConnector _ _ _ => "connector.sync"

def Service.intent (now : Int) (s : Stored ι) : Transition → Except PyError Document
  | .validatePlan planId => do
      let current ← s.governed.store.get "plan" planId service.tenantId
      pure [("version", .int current.version), ("etag", .str current.etag)]
  | .submitPlanApproval planId submission => do
      GovernanceApi.checkExpiry submission now
      let current ← s.governed.store.get "plan" planId service.tenantId
      let _ ← service.riskOf current.body
      pure (("version", .int current.version) :: GovernanceApi.submissionDocument submission)
  | .publishTariff tariffId => do
      let current ← s.governed.store.get "tariff" tariffId service.tenantId
      pure [("version", .int current.version), ("etag", .str current.etag)]
  | .syncConnector connectorId bodyId data => do
      let request ← service.syncRequest connectorId bodyId data s
      pure request.intent

variable {service} {context : ApiContext} {now : Int} {pull : Pull ε} {t : Transition}
  {x x' : ServiceState ι} {intent : Document}

theorem governed_audited (service : Service ι ε) (x : ServiceState ι)
    (handler : ApiState → Except PyError Response × ApiState) {operation : String}
    {callback : Governed → Except PyError Response × Governed}
    (h : handler ⟨x.stored.governed, x.operations⟩ = service.auditedOperation context operation
      intent callback ⟨x.stored.governed, x.operations⟩) :
    ∃ callback', governed handler x = service.audited context operation intent callback' x := by
  refine ⟨fun s =>
    ((callback s.governed).1, { s with governed := (callback s.governed).2 }), ?_⟩
  unfold governed
  rw [h]
  unfold auditedOperation audited executeMemory
  dsimp only
  cases (OperationArgs.mk service.tenantId context.idempotencyKey operation intent).check with
  | error e => rfl
  | ok _ =>
    dsimp only
    cases x.operations.get? (service.tenantId, context.idempotencyKey) with
    | some record =>
      dsimp only
      split <;> rfl
    | none =>
      dsimp only
      cases callback x.stored.governed with
      | mk outcome g =>
        cases outcome with
        | error e => rfl
        | ok r => rfl

/-- Every transition computes its intent and goes through the idempotency
table. -/
theorem serve_eq (service : Service ι ε) (context : ApiContext) (now : Int) (pull : Pull ε)
    (t : Transition) (x : ServiceState ι) :
    (∃ e, service.intent now x.stored t = .error e ∧
      service.serve context now pull t x = (.error e, x)) ∨
    ∃ intent callback, service.intent now x.stored t = .ok intent ∧
      service.serve context now pull t x =
        service.audited context t.operation intent callback x := by
  cases t with
  | validatePlan planId =>
    simp only [intent, serve]
    cases hget : x.stored.governed.store.get "plan" planId service.tenantId with
    | error e => exact .inl ⟨e, rfl, by simp [governed, validatePlan, hget]⟩
    | ok current =>
      obtain ⟨callback, hserve⟩ := governed_audited service x
        (service.validatePlan context planId now)
        (by simp only [validatePlan, hget]; rfl)
      exact .inr ⟨_, callback, rfl, hserve⟩
  | submitPlanApproval planId submission =>
    simp only [intent, serve]
    cases hexpiry : checkExpiry submission now with
    | error e =>
      exact .inl ⟨e, rfl, by simp [governed, submitPlanApproval, hexpiry]⟩
    | ok _ =>
      cases hget : x.stored.governed.store.get "plan" planId service.tenantId with
      | error e =>
        exact .inl ⟨e, rfl, by
          simp [governed, submitPlanApproval, hexpiry, hget]⟩
      | ok current =>
        cases hrisk : service.riskOf current.body with
        | error e =>
          refine .inl ⟨e, by simp [hrisk], ?_⟩
          simp [governed, submitPlanApproval, hexpiry, hget, hrisk]
        | ok risk =>
          obtain ⟨callback, hserve⟩ := governed_audited service x
            (service.submitPlanApproval context planId submission now)
            (by simp only [submitPlanApproval, hexpiry, hget, hrisk, ok_bind, except_pure]; rfl)
          exact .inr ⟨_, callback, by simp only [hrisk, ok_bind, except_pure], hserve⟩
  | publishTariff tariffId =>
    simp only [intent, serve]
    cases hget : x.stored.governed.store.get "tariff" tariffId service.tenantId with
    | error e => exact .inl ⟨e, rfl, by simp [governed, publishTariff, hget]⟩
    | ok current =>
      obtain ⟨callback, hserve⟩ := governed_audited service x
        (service.publishTariff context tariffId now)
        (by simp only [publishTariff, hget]; rfl)
      exact .inr ⟨_, callback, rfl, hserve⟩
  | syncConnector connectorId bodyId data =>
    simp only [intent, serve, syncConnector]
    cases service.syncRequest connectorId bodyId data x.stored with
    | error e => exact .inl ⟨e, rfl, rfl⟩
    | ok request => exact .inr ⟨_, _, rfl, rfl⟩

/-! ## Records -/

variable {r : Response} {connectorId bodyId : String} {data : Document}

theorem serve_recorded (h : service.serve context now pull t x = (.ok r, x')) :
    ∃ intent, service.intent now x.stored t = .ok intent ∧
      (OperationArgs.mk service.tenantId context.idempotencyKey t.operation intent).check = .ok () ∧
      x'.operations.get? (service.tenantId, context.idempotencyKey) =
        some (t.operation, service.env.digest (.dict intent), r) := by
  rcases serve_eq service context now pull t x with
    ⟨e, _, hserve⟩ | ⟨intent, callback, hintent, hserve⟩
  · cases hserve.symm.trans h
  rw [h] at hserve
  obtain ⟨hr, hx⟩ := Prod.mk.inj hserve
  refine ⟨intent, hintent, ?_⟩
  generalize hout : executeMemory service.env
    ⟨service.tenantId, context.idempotencyKey, t.operation, intent⟩ callback x.operations
      x.stored = out
  obtain ⟨outcome, memory, s⟩ := out
  simp only [hout] at hr hx
  subst hr hx
  exact executeMemory_records hout

/-- A transition whose key has a record of it is answered from the record when
its intent has the recorded digest, and not otherwise. -/
theorem serve_answered_iff {digest : String}
    (hcheck : (OperationArgs.mk service.tenantId context.idempotencyKey t.operation intent).check =
      .ok ())
    (hrecord : x.operations.get? (service.tenantId, context.idempotencyKey) =
      some (t.operation, digest, r)) :
    service.serve context now pull t x = (.ok r, x) ↔
      ∃ intent', service.intent now x.stored t = .ok intent' ∧
        service.env.digest (.dict intent') = digest := by
  rcases serve_eq service context now pull t x with
    ⟨e, hintent, hserve⟩ | ⟨intent', callback, hintent, hserve⟩
  · simp [hintent, hserve]
  have hsame : service.audited context t.operation intent' callback x = (.ok r, x) ↔
      executeMemory service.env ⟨service.tenantId, context.idempotencyKey, t.operation, intent'⟩
        callback x.operations x.stored = (.ok r, x.operations, x.stored) := by
    constructor
    · intro h
      obtain ⟨hr, hx⟩ := Prod.mk.inj h
      exact Prod.ext hr (Prod.ext (congrArg ServiceState.operations hx)
        (congrArg ServiceState.stored hx))
    · intro h
      unfold audited
      rw [h]
  -- the check does not look at the intent
  have hcheck' : (OperationArgs.mk service.tenantId context.idempotencyKey t.operation
      intent').check = .ok () := hcheck
  rw [hserve, hsame, executeMemory_answers_iff hcheck' hrecord]
  constructor
  · rintro ⟨_, hdigest⟩
    exact ⟨intent', hintent, hdigest.symm⟩
  · rintro ⟨_, hintent', hdigest⟩
    cases hintent.symm.trans hintent'
    exact ⟨rfl, hdigest.symm⟩

theorem run_keeps_record {key : String × String} {record : String × String × Response}
    (h : x.operations.get? key = some record) (env : PyEnv) (requests : List (AnyRequest ι)) :
    (run (ServiceState.step env) x requests).operations.get? key = some record := by
  refine run_invariant (P := fun x => x.operations.get? key = some record) ?_ requests x h
  intro x request h
  cases request with
  | direct change => exact h
  | audited args callback => exact executeMemory_keeps h

/-! ## The ground of a retry -/

variable (service)

def SameVersion (kind id : String) (s s' : Stored ι)
    (same : StoredResource → StoredResource → Prop) : Prop :=
  ∃ current current', s.governed.store.get kind id service.tenantId = .ok current ∧
    s'.governed.store.get kind id service.tenantId = .ok current' ∧
    current'.version = current.version ∧ same current current'

/-- What the state `s'` before a retry has in common with the state `s` before
the first call: the version and etag of the plan or tariff; for a submission
its version, with a risk that can be read, and an expiry in the future still;
for a sync the version of the connector and the cursor of the stream, and its
watermark, with the offset, unless the body has a start. -/
def SameGround (now : Int) (s s' : Stored ι) : Transition → Prop
  | .validatePlan planId =>
      SameVersion service "plan" planId s s' fun current current' => current'.etag = current.etag
  | .submitPlanApproval planId submission =>
      GovernanceApi.checkExpiry submission now = .ok () ∧
      SameVersion service "plan" planId s s' fun _ current' =>
        ∃ risk, service.riskOf current'.body = .ok risk
  | .publishTariff tariffId =>
      SameVersion service "tariff" tariffId s s' fun current current' =>
        current'.etag = current.etag
  | .syncConnector connectorId _ data =>
      let offset := service.offsetOf s connectorId (service.streamOf data)
      let offset' := service.offsetOf s' connectorId (service.streamOf data)
      SameVersion service "connector" connectorId s s' fun _ _ =>
        offset'.cursor = offset.cursor ∧
          ((docGetD data "start" .none).truthy ∨ offset'.watermark = offset.watermark)

variable {service} {s s' : Stored ι} {r : Service.SyncRequest}

theorem syncRequest_eq_ok :
    service.syncRequest connectorId bodyId data s = .ok r ↔
      connectorId = bodyId ∧
      s.governed.store.get "connector" connectorId service.tenantId = .ok r.configuration ∧
      r.stream = service.streamOf data ∧ (r.stream ≠ "" ∧ r.stream.length ≤ 120) ∧
      r.offset = service.offsetOf s connectorId r.stream ∧
      (hasStart data r.offset ∧ (docGetD data "end" .none).truthy) ∧
      service.startOf data r.offset = .ok r.start ∧
      service.toDateTime (docGetD data "end" .none) = .ok r.stop ∧
      r.start.time.isNaive = false ∧ r.stop.time.isNaive = false := by
  unfold syncRequest
  constructor
  · intro h
    simp only [except_throw] at h
    split at h
    · cases h
    rename_i hid
    obtain ⟨configuration, hget, h⟩ := bind_eq_ok.mp h
    split at h
    · cases h
    rename_i hstream
    split at h
    · cases h
    rename_i htimes
    obtain ⟨start, hstart, h⟩ := bind_eq_ok.mp h
    obtain ⟨stop, hstop, h⟩ := bind_eq_ok.mp h
    split at h
    · cases h
    rename_i haware
    cases h
    rw [not_or, not_lt] at hstream
    simp only [Bool.or_eq_true, Bool.not_eq_true', not_or, Bool.not_eq_false] at htimes
    simp only [Bool.or_eq_true, not_or, Bool.not_eq_true] at haware
    exact ⟨not_not.mp hid, hget, rfl, hstream, rfl, htimes, hstart, hstop, haware⟩
  · rintro ⟨rfl, hget, hstream, hvalid, hoffset, htimes, hstart, hstop, haware⟩
    obtain ⟨configuration, stream, offset, start, stop⟩ := r
    dsimp only at hget hstream hvalid hoffset htimes hstart hstop haware
    subst hstream hoffset
    simp [hget, hvalid.1, Nat.not_lt.mpr hvalid.2, htimes, hstart, hstop, haware]

theorem cursorValue_injective {cursor cursor' : Option String}
    (h : cursorValue cursor = cursorValue cursor') : cursor = cursor' := by
  cases cursor <;> cases cursor' <;> simp_all [cursorValue]

theorem hasStart_congr {offset offset' : ConnectorOffset}
    (h : (docGetD data "start" .none).truthy ∨ offset'.watermark = offset.watermark) :
    hasStart data offset' = hasStart data offset := by
  unfold hasStart
  rcases h with h | h <;> rw [h]
  rfl

theorem startOf_congr {offset offset' : ConnectorOffset}
    (h : (docGetD data "start" .none).truthy ∨ offset'.watermark = offset.watermark) :
    service.startOf data offset' = service.startOf data offset := by
  unfold startOf
  rcases h with h | h
  · simp only [h, if_true]
    split <;> split <;> rfl
  · rw [h]

theorem watermark_of_start {offset : ConnectorOffset} {start : ZonedTime}
    (hbody : ¬ (docGetD data "start" .none).truthy) (hgiven : hasStart data offset = true)
    (hstart : service.startOf data offset = .ok start) : offset.watermark = some start := by
  unfold startOf at hstart
  cases hwatermark : offset.watermark with
  | none => simp [hasStart, hwatermark, hbody] at hgiven
  | some watermark =>
    rw [hwatermark] at hstart
    simp only [if_neg hbody] at hstart
    cases hstart
    rfl

theorem shown_injective {t t' : ZonedTime} (h : t.shown = t'.shown) : t = t' := by
  cases t
  cases t'
  simpa [ZonedTime.shown] using h

/-- Two syncs of one body have one intent when they find one version, one
cursor, and one watermark if they need it. -/
theorem sync_intent_iff
    (h : service.syncRequest connectorId bodyId data s = .ok r) :
    (∃ r', service.syncRequest connectorId bodyId data s' = .ok r' ∧ r'.intent = r.intent) ↔
      SameGround service now s s' (.syncConnector connectorId bodyId data) := by
  obtain ⟨rfl, hget, hstream, hvalid, hoffset, htimes, hstart, hstop, haware⟩ :=
    syncRequest_eq_ok.mp h
  unfold SameGround SameVersion
  dsimp only
  rw [← hstream, ← hoffset]
  constructor
  · rintro ⟨r', h', hintent⟩
    obtain ⟨_, hget', hstream', _, hoffset', htimes', hstart', _, _⟩ := syncRequest_eq_ok.mp h'
    simp only [Service.SyncRequest.intent, List.cons.injEq, Prod.mk.injEq, true_and, and_true,
      Value.int.injEq] at hintent
    obtain ⟨hversion, _, hshown, _, hcursor⟩ := hintent
    have hsame := shown_injective hshown
    rw [hstream, ← hstream', ← hoffset']
    refine ⟨_, _, hget, hget', hversion, cursorValue_injective hcursor, ?_⟩
    -- without a start in the body both start at their watermark
    by_cases hbody : (docGetD data "start" .none).truthy
    · exact .inl hbody
    · rw [watermark_of_start hbody htimes'.1 hstart', watermark_of_start hbody htimes.1 hstart,
        hsame]
      exact .inr rfl
  · rintro ⟨current, configuration', hcurrent, hget', hversion, hcursor, hwatermark⟩
    cases hget.symm.trans hcurrent
    refine ⟨⟨configuration', r.stream, service.offsetOf s' connectorId r.stream, r.start, r.stop⟩,
      syncRequest_eq_ok.mpr ⟨rfl, hget', hstream, hvalid, rfl, ?_, ?_, hstop, haware⟩, ?_⟩
    · rw [hasStart_congr hwatermark]
      exact htimes
    · rw [startOf_congr hwatermark]
      exact hstart
    · simp [Service.SyncRequest.intent, hversion, hcursor]

theorem sameGround_iff {now' : Int} (h : service.intent now s t = .ok intent) :
    service.intent now' s' t = .ok intent ↔ SameGround service now' s s' t := by
  cases t with
  | validatePlan planId | publishTariff tariffId =>
    obtain ⟨current, hget, h⟩ := bind_eq_ok.mp h
    cases h
    simp [intent, SameGround, SameVersion, bind_eq_ok, hget]
  | submitPlanApproval planId submission =>
    obtain ⟨_, _, h⟩ := bind_eq_ok.mp h
    obtain ⟨current, hget, h⟩ := bind_eq_ok.mp h
    obtain ⟨risk, _, h⟩ := bind_eq_ok.mp h
    cases h
    constructor
    · intro h'
      obtain ⟨_, hexpiry, h'⟩ := bind_eq_ok.mp h'
      obtain ⟨current', hget', h'⟩ := bind_eq_ok.mp h'
      obtain ⟨risk', hrisk', h'⟩ := bind_eq_ok.mp h'
      have hversion : current'.version = current.version := by simpa using h'
      exact ⟨hexpiry, current, current', hget, hget', hversion, risk', hrisk'⟩
    · rintro ⟨hexpiry, found, current', hfound, hget', hversion, risk', hrisk'⟩
      cases hget.symm.trans hfound
      simp [intent, hexpiry, hget', hrisk', hversion]
  | syncConnector connectorId bodyId data =>
    obtain ⟨r, hr, h⟩ := bind_eq_ok.mp h
    cases h
    rw [← sync_intent_iff hr]
    simp [intent, bind_eq_ok]

/-- **Main result.** Let a transition succeed, let any requests follow, and then
the same request again, under a clock of its own. It is answered with the
recorded response, and changes nothing, exactly when it finds the ground of the
first call. `hdigest`: the digests of the two intents do not collide. -/
theorem retry_answered_iff (service : Service ι ε) (context : ApiContext) (t : Transition)
    (now now' : Int) (pull pull' : Pull ε) (x x' : ServiceState ι) (r : Response)
    (hfirst : service.serve context now pull t x = (.ok r, x')) (between : List (AnyRequest ι))
    (hdigest : ∀ intent intent', service.intent now x.stored t = .ok intent →
      service.intent now' (run (ServiceState.step service.env) x' between).stored t = .ok intent' →
      service.env.digest (.dict intent') = service.env.digest (.dict intent) → intent' = intent) :
    service.serve context now' pull' t (run (ServiceState.step service.env) x' between) =
        (.ok r, run (ServiceState.step service.env) x' between) ↔
      SameGround service now' x.stored
        (run (ServiceState.step service.env) x' between).stored t := by
  obtain ⟨intent, hintent, hcheck, hrecord⟩ := serve_recorded hfirst
  rw [serve_answered_iff hcheck (run_keeps_record hrecord service.env between),
    ← sameGround_iff hintent]
  constructor
  · rintro ⟨intent', hintent', hsame⟩
    rw [hintent', hdigest intent intent' hintent hintent' hsame]
  · intro hsame
    exact ⟨intent, hsame, rfl⟩

/-! ## Concrete requests -/

/-- A service whose connectors deliver nothing and whose ingestion counts the
batches. -/
def sampleService : Service Nat Unit :=
  { sampleApi with
    calendar := ⟨fun _ => none, fun _ => none⟩
    ingest := fun _ batches => (.ok [("accepted", .int 0)], batches + 1) }

def emptyPull : Pull Unit := fun _ _ _ _ => .ok ((), none)

/-- A draft plan and a connector are stored. -/
def readyState : ServiceState Nat :=
  let x := run (ApiState.step sampleApi) .empty (submissionOps.take 1)
  let store := x.governed.store.step sampleApi.env
    { kind := "connector", resourceId := "meter-1", tenantId := "tenant-one", body := []
      idempotencyKey := "connector-1" }
  ⟨⟨{ x.governed with store }, .empty, 0⟩, x.operations⟩

def syncMeter : Transition :=
  .syncConnector "meter-1" "meter-1" [("start", .str "2026-01-01T00:00:00+00:00"),
    ("end", .str "2026-01-02T00:00:00+00:00")]

def syncContext : ApiContext := operator "alice" "request-9" none (by decide)

theorem retry_answered_iff_syncMeter :
    ∃ r x', sampleService.serve syncContext newYear emptyPull syncMeter readyState = (.ok r, x') ∧
      sampleService.serve syncContext dayAfter emptyPull syncMeter x' = (.ok r, x') := by
  generalize hout : sampleService.serve syncContext newYear emptyPull syncMeter readyState = out
  obtain ⟨outcome, x'⟩ := out
  have hrun : (sampleService.serve syncContext newYear emptyPull syncMeter
        readyState).1.toOption.isSome ∧
      ((readyState.stored.governed.store.get "connector" "meter-1" "tenant-one").toOption.any
        fun current => ((sampleService.serve syncContext newYear emptyPull syncMeter
          readyState).2.stored.governed.store.get "connector" "meter-1" "tenant-one").toOption.any
            fun current' => current'.version = current.version) = true ∧
      (sampleService.offsetOf (sampleService.serve syncContext newYear emptyPull syncMeter
        readyState).2.stored "meter-1" "intervals").cursor =
        (sampleService.offsetOf readyState.stored "meter-1" "intervals").cursor := by
    decide +kernel
  rw [hout] at hrun
  obtain ⟨hok, hversions, hcursor⟩ := hrun
  obtain ⟨r, hr⟩ := isSome_iff_exists.mp hok
  cases toOption_eq_some.mp hr
  obtain ⟨current, hcurrent, hversions⟩ := (any_eq_true _ _).mp hversions
  obtain ⟨current', hcurrent', hversion⟩ := (any_eq_true _ _).mp hversions
  have hground : SameGround sampleService dayAfter readyState.stored x'.stored syncMeter :=
    ⟨current, current', toOption_eq_some.mp hcurrent, toOption_eq_some.mp hcurrent',
      of_decide_eq_true hversion, hcursor, .inl rfl⟩
  refine ⟨r, x', rfl, (retry_answered_iff sampleService syncContext syncMeter newYear
    dayAfter emptyPull emptyPull readyState x' r hout [] ?_).mpr hground⟩
  intro intent intent' hintent hintent' _
  exact Except.ok.inj (hintent'.symm.trans ((sameGround_iff hintent).mpr hground))

def validateDraft : Transition := .validatePlan "plan-1"

def validateContext : ApiContext :=
  operator "alice" "validate-1" (some "+") (by decide)

/-- The retry of a validation that succeeded is refused as another operation. -/
theorem retried_validation_refused :
    ∃ r x', sampleService.serve validateContext newYear emptyPull validateDraft readyState =
        (.ok r, x') ∧
      (sampleService.serve validateContext newYear emptyPull validateDraft x').1 =
        .error (.valueError "idempotency key reused with a different API operation") := by
  generalize hout : sampleService.serve validateContext newYear emptyPull validateDraft
    readyState = out
  obtain ⟨outcome, x'⟩ := out
  have hrun : (sampleService.serve validateContext newYear emptyPull validateDraft
        readyState).1.toOption.isSome ∧
      raised? (sampleService.serve validateContext newYear emptyPull validateDraft
        (sampleService.serve validateContext newYear emptyPull validateDraft readyState).2).1 =
        some (.valueError "idempotency key reused with a different API operation") := by
    decide +kernel
  rw [hout] at hrun
  obtain ⟨hok, hretry⟩ := hrun
  obtain ⟨r, hr⟩ := isSome_iff_exists.mp hok
  cases toOption_eq_some.mp hr
  exact ⟨r, x', rfl, raised?_eq_some.mp hretry⟩

end ComputeWeaver.Api
