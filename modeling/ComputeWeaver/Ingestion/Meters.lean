/-
Ingestion.Meters — interval meters and their synchronisation
(`packages/connectors/meters.py`, with `sync_connector` of `apps/api/main.py` and
the ingestion processor behind it).

`MeterStream` is the meter at the other end: the intervals it has, and the pages
in which it serves those of a window. An answer carries a cursor while pages of
that window remain. What the meter makes of a cursor that is not one of the
window asked for is left open.

A sync asks for one page. What goes wrong on the way to it, a connector that
cannot be created included, is an input of the call, and so are the readings of
the clocks.
-/
import ComputeWeaver.Api.Transitions
import ComputeWeaver.Ingestion.Processor

namespace ComputeWeaver.Ingestion

open Lib Api

/-! ## Intervals -/

/-- An object of `intervals`, its fields as `str` shows them. -/
structure Interval where
  id : Option String
  metric : String
  timestamp : String
  value : String
  unit : String
  meterId : String
  deriving DecidableEq

namespace Interval

def payload (interval : Interval) : Document :=
  [("metric", .str interval.metric), ("timestamp", .str interval.timestamp),
    ("value", .str interval.value), ("unit", .str interval.unit),
    ("meter_id", .str interval.meterId)]

/-- The id of the source, or the head of a hash of the payload. -/
def sourceId (env : PyEnv) (interval : Interval) : String :=
  match interval.id with
  | some id => if id = "" then hashed else id
  | none => hashed
where
  hashed : String := String.ofList ((env.digest (.dict interval.payload)).toList.take 24)

def toEvent (env : PyEnv) (tenantId connectorId : String) (receivedAt : DateTime)
    (interval : Interval) : RawEvent :=
  .create env (connectorId ++ ":" ++ interval.sourceId env) tenantId connectorId receivedAt
    interval.payload

end Interval

/-! ## The meter -/

/-- A meter with its intervals, the time of each, the pages of every window and
the cursor under which a page is asked for. A window has at least the intervals
from its start up to its end. -/
structure MeterStream where
  intervals : List Interval
  time : Interval → Int
  pages : Int → Int → List (List Interval)
  mem_pages : ∀ start stop, ∀ interval ∈ intervals, start ≤ time interval →
    time interval < stop → interval ∈ (pages start stop).flatten
  cursor : Int → Int → Nat → String
  stray : Int → Int → String → Except PyError (List Interval × Option String)

namespace MeterStream

variable (meter : MeterStream)

/-- A page of a window, with the cursor of the next one if there is one. -/
def page (start stop : Int) (k : Nat) : List Interval × Option String :=
  ((meter.pages start stop).getD k [],
    if k + 1 < (meter.pages start stop).length then some (meter.cursor start stop (k + 1))
    else none)

/-- The answer to `GET /v1/intervals`. -/
def serve (start stop : Int) : Option String → Except PyError (List Interval × Option String)
  | none => pure (meter.page start stop 0)
  | some cursor =>
      match (List.range (meter.pages start stop).length).find? fun k =>
          meter.cursor start stop k = cursor with
      | some k => pure (meter.page start stop k)
      | none => meter.stray start stop cursor

end MeterStream

/-! ## The connector -/

/-- What a pull delivers, with the readings of the clock of the ingest after it. -/
structure Delivery where
  events : List RawEvent
  now : ℚ
  failedAt : ℚ

/-- A request to `sync_connector`. `outage` is what the connector raises before it
has an answer. -/
structure SyncCall where
  context : ApiContext
  connectorId : String
  bodyId : String
  data : Document
  outage : Option PyError
  receivedAt : DateTime
  now : ℚ
  failedAt : ℚ

/-- The API with the meters behind its connectors. -/
structure MeterApi where
  api : GovernanceApi
  calendar : Tariffs.CalendarEnv
  rounding : PyDecimal.Context
  meters : String → MeterStream

namespace MeterApi

variable (m : MeterApi)

def event (connectorId : String) (receivedAt : DateTime) : Interval → RawEvent :=
  Interval.toEvent m.api.env m.api.tenantId connectorId receivedAt

/-- `HttpsMeterConnector.pull`. A cursor is sent if it is not empty. -/
def pull (call : SyncCall) : Pull Delivery := fun _ start stop cursor =>
  match call.outage with
  | some e => throw e
  | none =>
      if stop.micros ≤ start.micros then
        throw (.valueError "meter interval end must follow start")
      else do
        let (intervals, nextCursor) ← (m.meters call.connectorId).serve start.micros stop.micros
          (cursor.filter fun cursor => cursor ≠ "")
        pure (⟨intervals.map (m.event call.connectorId call.receivedAt), call.now, call.failedAt⟩,
          nextCursor)

def normalizer : NormalizeEnv := ⟨m.api.env, m.rounding⟩

/-- `asdict(result)`. -/
def asdict (result : IngestionResult) : Document :=
  [("accepted_raw", .int result.acceptedRaw), ("accepted_points", .int result.acceptedPoints),
    ("duplicates", .int result.duplicates)]

def service : Service IngestionProcessor Delivery :=
  { m.api with
    calendar := m.calendar
    ingest := fun delivery processor =>
      let out := m.normalizer.ingest processor delivery.events delivery.now delivery.failedAt
      (out.1.map asdict, out.2) }

/-- `sync_connector`. -/
def sync (x : ServiceState IngestionProcessor) (call : SyncCall) :
    Except PyError Response × ServiceState IngestionProcessor :=
  m.service.syncConnector call.context call.connectorId call.bodyId call.data (m.pull call) x

/-- The state after a request. -/
def step (x : ServiceState IngestionProcessor) (call : SyncCall) :
    ServiceState IngestionProcessor :=
  (m.sync x call).2

end MeterApi

end ComputeWeaver.Ingestion
