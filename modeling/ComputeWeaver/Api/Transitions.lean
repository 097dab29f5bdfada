/-
Api.Transitions — the state transitions of the HTTP API and
their retries (`apps/api/main.py`: `POST /v1/plans/{id}/validate` and
`/submit-approval`, `POST /v1/tariffs/{id}/publish`, `POST
/v1/connectors/{id}/sync`; `packages/connectors/offsets.py` in memory).

Each of the four handlers reads what is stored, computes from it the intent of
the request, and goes through `audited_operation` with a callback that changes
what is stored. The idempotency table compares intents, so a retry is
recognised by the intent it computes from the state IT finds.

What a connector delivers and what the ingestion processor makes of it are
parameters: events of any type, and a processor state of any type.
-/
import ComputeWeaver.Api.Governance
import ComputeWeaver.Tariffs.Models

namespace ComputeWeaver.Api

open Lib Risk Approval Persistence Tariffs

/-! ## State -/

/-- A datetime with its offset from UTC. Datetimes at one instant are equal and
their texts are not, if the offsets differ. -/
structure ZonedTime where
  time : DateTime
  offset : Int
  deriving DecidableEq

def ZonedTime.micros (t : ZonedTime) : Int := t.time.micros

/-- A datetime in an intent, where `json.dumps` puts its text: the instant and the
offset, which the text shows and which determine it. -/
def ZonedTime.shown (t : ZonedTime) : Value := .list [.time t.time, .int t.offset]

structure ConnectorOffset where
  cursor : Option String
  watermark : Option ZonedTime
  deriving DecidableEq

/-- Everything but the idempotency table; `ι` is the state of the ingestion
processor. -/
structure Stored (ι : Type) where
  governed : Governed
  offsets : Dict (String × String × String) ConnectorOffset
  ingested : ι

structure ServiceState (ι : Type) where
  stored : Stored ι
  operations : OperationMemory Response

/-- `ingest` is `ingestion_processor.ingest` followed by `asdict`. -/
structure Service (ι ε : Type) extends GovernanceApi where
  calendar : CalendarEnv
  ingest : ε → ι → Except PyError Document × ι

/-- `create_meter_connector(…).pull(…)` for a configuration, a start, an end and
a cursor. -/
abbrev Pull (ε : Type) :=
  Document → DateTime → DateTime → Option String → Except PyError (ε × Option String)

namespace Service

variable {ι ε : Type} (service : Service ι ε)

/-- `audited_operation`. -/
def audited (context : ApiContext) (operation : String) (intent : Document)
    (callback : Stored ι → Except PyError Response × Stored ι) (x : ServiceState ι) :
    Except PyError Response × ServiceState ι :=
  let out := executeMemory service.env
    ⟨service.tenantId, context.idempotencyKey, operation, intent⟩ callback x.operations x.stored
  (out.1, ⟨out.2.2, out.2.1⟩)

/-- A handler for plans and approvals. -/
def governed (handler : ApiState → Except PyError Response × ApiState) (x : ServiceState ι) :
    Except PyError Response × ServiceState ι :=
  let out := handler ⟨x.stored.governed, x.operations⟩
  (out.1, ⟨{ x.stored with governed := out.2.governed }, out.2.operations⟩)

/-! ## Publishing a tariff -/

/-- `PricePeriod(…)` of an item of `periods`. -/
def parsePeriod (item : Value) : Except PyError PricePeriod := do
  let name := service.env.str (← item.field "name")
  let startLocal ← service.calendar.isoTime (service.env.str (← item.field "start_local"))
  let endLocal ← service.calendar.isoTime (service.env.str (← item.field "end_local"))
  let pricePerKwh ← service.env.decimal (← item.field "price_per_kwh")
  let weekdays := match item with
    | .dict items => docGetD items "weekdays" (.list ((List.range 7).map fun day => .int day))
    | _ => .none
  let weekdays ← (← PyEnv.list weekdays).mapM service.env.int
  pure ⟨name, startLocal, endLocal, pricePerKwh, weekdays.toFinset⟩

/-- The `TariffPlan` that `publish` builds for its checks. -/
def parseTariff (tariffId : String) (current : StoredResource) : Except PyError TariffPlan := do
  let data := current.body
  let version ← service.env.int (docGetD data "tariff_version" (.int current.version))
  let currency := service.env.str (docGetD data "currency" (.str "USD"))
  let timezone := service.env.str (← docItem data "timezone")
  let effectiveFrom ← service.calendar.isoDate (service.env.str (← docItem data "effective_from"))
  let effectiveTo ← if (docGetD data "effective_to" .none).truthy then do
      pure (some (← service.calendar.isoDate (service.env.str (← docItem data "effective_to"))))
    else pure none
  let periods ← (← PyEnv.list (← docItem data "periods")).mapM service.parsePeriod
  let demandChargePerKw ← service.env.decimal (docGetD data "demand_charge_per_kw" (.int 0))
  let capacityChargePerKw ← service.env.decimal (docGetD data "capacity_charge_per_kw" (.int 0))
  let taxRate ← service.env.decimal (docGetD data "tax_rate" (.int 0))
  let feedInPricePerKwh ← service.env.decimal (docGetD data "feed_in_price_per_kwh" (.int 0))
  TariffPlan.create
    { id := tariffId, version, currency, timezone, effectiveFrom, effectiveTo, periods
      demandChargePerKw, capacityChargePerKw, taxRate, feedInPricePerKwh }

/-- `publish`. -/
def publish (context : ApiContext) (tariffId : String) (current : StoredResource) (now : Int)
    (g : Governed) : Except PyError Response × Governed :=
  atomically g do
    GovernanceApi.requireIfMatch context current
    let _ ← service.parseTariff tariffId current
    let (published, store) ← g.store.put service.env
      { kind := "tariff", resourceId := tariffId, tenantId := service.tenantId
        body := docUpdate (docWithout current.body "id")
          [("status", .str "published"), ("published_at", .time (.aware now))]
        idempotencyKey := context.idempotencyKey ++ ":tariff", ifMatch := context.ifMatch }
    pure (.tariff published, { g with store })

/-- `publish_tariff`; `now` is `datetime.now(UTC)`. -/
def publishTariff (context : ApiContext) (tariffId : String) (now : Int) (x : ApiState) :
    Except PyError Response × ApiState :=
  match x.governed.store.get "tariff" tariffId service.tenantId with
  | .error e => (.error e, x)
  | .ok current =>
      service.auditedOperation context "tariff.publish"
        [("version", .int current.version), ("etag", .str current.etag)]
        (service.publish context tariffId current now) x

/-! ## Synchronising a connector -/

/-- `connector_offsets.get`. -/
def offsetOf (s : Stored ι) (connectorId stream : String) : ConnectorOffset :=
  (s.offsets.get? (service.tenantId, connectorId, stream)).getD ⟨none, none⟩

def streamOf (data : Document) : String :=
  service.env.str (docGetD data "stream" (.str "intervals"))

/-- `value if isinstance(value, datetime) else datetime.fromisoformat(str(value))`. -/
def toDateTime : Value → Except PyError ZonedTime
  | .time t => pure ⟨t, 0⟩
  | value => do
      pure ⟨← service.env.isoTime value, service.env.parseOffset (service.env.str value)⟩

/-- `body.data.get("start") or offset.watermark` is there. -/
def hasStart (data : Document) (offset : ConnectorOffset) : Bool :=
  (docGetD data "start" .none).truthy || offset.watermark.isSome

/-- It as a datetime. -/
def startOf (data : Document) (offset : ConnectorOffset) : Except PyError ZonedTime :=
  match offset.watermark with
  | some watermark =>
      if (docGetD data "start" .none).truthy then service.toDateTime (docGetD data "start" .none)
      else pure watermark
  | none => service.toDateTime (docGetD data "start" .none)

/-- What a sync works on. -/
structure SyncRequest where
  configuration : StoredResource
  stream : String
  offset : ConnectorOffset
  start : ZonedTime
  stop : ZonedTime

def cursorValue : Option String → Value
  | some cursor => .str cursor
  | none => .none

/-- The part of `sync_connector` in front of `audited_operation`. -/
def syncRequest (connectorId bodyId : String) (data : Document) (s : Stored ι) :
    Except PyError SyncRequest := do
  if connectorId ≠ bodyId then
    throw (.valueError "connector ID mismatch")
  let configuration ← s.governed.store.get "connector" connectorId service.tenantId
  let stream := service.streamOf data
  if stream = "" ∨ 120 < stream.length then
    throw (.valueError "connector stream is invalid")
  let offset := service.offsetOf s connectorId stream
  let endValue := docGetD data "end" .none
  if !hasStart data offset || !endValue.truthy then
    throw (.valueError "connector sync requires start and end timestamps")
  let start ← service.startOf data offset
  let stop ← service.toDateTime endValue
  if start.time.isNaive || stop.time.isNaive then
    throw (.valueError "connector sync timestamps must be timezone-aware")
  pure ⟨configuration, stream, offset, start, stop⟩

def SyncRequest.intent (r : SyncRequest) : Document :=
  [("connector_version", .int r.configuration.version), ("stream", .str r.stream),
    ("start", r.start.shown), ("end", r.stop.shown), ("cursor", cursorValue r.offset.cursor)]

/-- `synchronize`: events that were ingested stay so when what follows raises. -/
def synchronize (pull : Pull ε) (connectorId : String) (r : SyncRequest) (s : Stored ι) :
    Except PyError Response × Stored ι :=
  match pull r.configuration.body r.start.time r.stop.time r.offset.cursor with
  | .error e => (.error e, s)
  | .ok (events, nextCursor) =>
      match service.ingest events s.ingested with
      | (.error e, ingested) => (.error e, { s with ingested })
      | (.ok result, ingested) =>
          (.ok (.synced (docUpdate result
              [("connector_id", .str connectorId), ("stream", .str r.stream),
                ("cursor", cursorValue nextCursor), ("watermark", .time r.stop.time)])),
            { s with
              ingested
              offsets := s.offsets.set (service.tenantId, connectorId, r.stream)
                ⟨nextCursor, some r.stop⟩ })

/-- `sync_connector`. -/
def syncConnector (context : ApiContext) (connectorId bodyId : String) (data : Document)
    (pull : Pull ε) (x : ServiceState ι) : Except PyError Response × ServiceState ι :=
  match service.syncRequest connectorId bodyId data x.stored with
  | .error e => (.error e, x)
  | .ok r =>
      service.audited context "connector.sync" r.intent (service.synchronize pull connectorId r) x

end Service

/-! ## Requests -/

/-- A state transition: path and body of the request. -/
inductive Transition where
  | validatePlan (planId : String)
  | submitPlanApproval (planId : String) (submission : ApprovalSubmission)
  | publishTariff (tariffId : String)
  | syncConnector (connectorId bodyId : String) (data : Document)

/-- The response to a transition and the state after it. The clock and what the
connector delivers are those of this one call. -/
def Service.serve {ι ε : Type} (service : Service ι ε) (context : ApiContext) (now : Int)
    (pull : Pull ε) : Transition → ServiceState ι → Except PyError Response × ServiceState ι
  | .validatePlan planId => governed (service.validatePlan context planId now)
  | .submitPlanApproval planId submission =>
      governed (service.submitPlanApproval context planId submission now)
  | .publishTariff tariffId => governed (service.publishTariff context tariffId now)
  | .syncConnector connectorId bodyId data =>
      service.syncConnector context connectorId bodyId data pull

/-- What a request of the API can do. -/
inductive AnyRequest (ι : Type) where
  | direct (change : Stored ι → Stored ι)
  | audited (args : OperationArgs) (callback : Stored ι → Except PyError Response × Stored ι)

def ServiceState.step {ι : Type} (env : PyEnv) (x : ServiceState ι) :
    AnyRequest ι → ServiceState ι
  | .direct change => { x with stored := change x.stored }
  | .audited args callback =>
      let out := executeMemory env args callback x.operations x.stored
      ⟨out.2.2, out.2.1⟩

end ComputeWeaver.Api
