/-
Ingestion.Stores — raw events, normalised points and the two
stores they go to (`packages/ingestion/raw.py`, `packages/ingestion/normalize.py`,
`packages/timeseries/store.py`).

Both stores keep the first value of a key. A second raw event under an id is a
duplicate if its payload hash is the same, a second point at a timestamp if its
value and unit are; anything else raises. The stores are the in-memory ones; on
Postgres an append is one transaction with the same cases (`INSERT … ON CONFLICT
DO NOTHING`, and a comparison with the row that is there).

A value may be a NaN: `Decimal("NaN")` is accepted, and it is not equal to
itself.
-/
import ComputeWeaver.Lib.Decimal

namespace ComputeWeaver.Ingestion

open Lib

/-! ## Raw events -/

structure RawEvent where
  id : String
  tenantId : String
  source : String
  receivedAt : DateTime
  payload : Document
  payloadHash : String

/-- `RawEvent.create`. -/
def RawEvent.create (env : PyEnv) (id tenantId source : String) (receivedAt : DateTime)
    (payload : Document) : RawEvent :=
  ⟨id, tenantId, source, receivedAt, payload, env.digest (.dict payload)⟩

def RawEvent.key (event : RawEvent) : String × String := (event.tenantId, event.id)

/-- The events by key, and the keys in the order they came. -/
structure RawLanding where
  events : Dict (String × String) RawEvent
  ordered : List (String × String)
  ordered_eq : ordered = events.keys

namespace RawLanding

theorem empty_ordered : ([] : List (String × String)) =
    (Dict.empty : Dict (String × String) RawEvent).keys := rfl

def empty : RawLanding := ⟨.empty, [], empty_ordered⟩

theorem landed_ordered (landing : RawLanding) (event : RawEvent)
    (h : landing.events.get? event.key = none) :
    landing.ordered ++ [event.key] = (landing.events.set event.key event).keys := by
  rw [landing.ordered_eq, Dict.keys, Dict.keys, Dict.entries_set_of_none h, List.map_append]
  rfl

/-- `append`: whether the event is new. -/
def append (landing : RawLanding) (event : RawEvent) : Except PyError (Bool × RawLanding) :=
  match h : landing.events.get? event.key with
  | some stored =>
      if stored.payloadHash ≠ event.payloadHash then
        throw (.valueError "event ID collision with different payload")
      else pure (false, landing)
  | none =>
      pure (true, ⟨landing.events.set event.key event, landing.ordered ++ [event.key],
        landed_ordered landing event h⟩)

/-- `query`: the events of a tenant in the order they came. -/
def query (landing : RawLanding) (tenantId : String) : List RawEvent :=
  (landing.ordered.filter fun key => key.1 = tenantId).filterMap landing.events.get?

end RawLanding

/-! ## Points -/

structure NormalizedPoint where
  id : String
  tenantId : String
  source : String
  metric : String
  timestamp : DateTime
  value : PyDecimal
  unit : String
  rawEventId : String
  rawPayloadHash : String
  transformation : String

/-- Where a point is stored: its tenant, metric and timestamp. -/
def NormalizedPoint.place (point : NormalizedPoint) : (String × String) × DateTime :=
  ((point.tenantId, point.metric), point.timestamp)

/-- `a == b` of decimals: a NaN is equal to nothing. -/
def decimalEq : PyDecimal → PyDecimal → Bool
  | .finite p, .finite q => p = q
  | .infinity a, .infinity b => a = b
  | _, _ => false

/-- `value * factor` for a positive factor. -/
def scaled (context : PyDecimal.Context) (factor : ℚ) : PyDecimal → Except PyError PyDecimal
  | .finite q => do return .finite (← context.round (q * factor))
  | .infinity negative => pure (.infinity negative)
  | .nan => pure .nan

/-- The text names a signalling NaN, which no operation takes. -/
def signals (text : String) : Bool :=
  let chars := ((pyStrip text).toList.filter (· ≠ '_')).map Char.toLower
  let body := if chars.head? = some '-' ∨ chars.head? = some '+' then chars.tail else chars
  body.take 4 = "snan".toList

def powerFactors : List (String × ℚ) := [("W", 1 / 1000), ("kW", 1), ("MW", 1000)]

def energyFactors : List (String × ℚ) := [("Wh", 1 / 1000), ("kWh", 1), ("MWh", 1000)]

/-- What normalising reads from a payload. -/
structure Signal where
  metric : String
  timestamp : DateTime
  value : PyDecimal
  signalling : Bool
  unit : String

/-- What normalising uses of the language. -/
structure NormalizeEnv where
  env : PyEnv
  context : PyDecimal.Context

namespace NormalizeEnv

variable (n : NormalizeEnv)

/-- The part of `normalize` in its `try`. -/
def readSignal (payload : Document) : Except PyError Signal := do
  let metric := n.env.str (← docItem payload "metric")
  let timestamp ← n.env.isoTime (← docItem payload "timestamp")
  let value ← docItem payload "value"
  let decimal ← n.env.decimal value
  let unit := n.env.str (← docItem payload "unit")
  pure ⟨metric, timestamp, decimal, signals (n.env.str value), unit⟩

/-- `except (KeyError, ValueError)`: a text that is no number is neither. -/
def payloadError : PyError → PyError
  | .keyError _ => .valueError "invalid raw signal payload"
  | .valueError _ => .valueError "invalid raw signal payload"
  | e => e

/-- The value in the normalised unit. -/
def convert (signal : Signal) : Except PyError (PyDecimal × String) :=
  match assocGet powerFactors signal.unit, assocGet energyFactors signal.unit with
  | some factor, _ =>
      if signal.signalling then throw .invalidOperation
      else do return (← scaled n.context factor signal.value, "kW")
  | none, some factor =>
      if signal.signalling then throw .invalidOperation
      else do return (← scaled n.context factor signal.value, "kWh")
  | none, none => pure (signal.value, signal.unit)

/-- `Normalizer.normalize`. -/
def normalize (event : RawEvent) : Except PyError NormalizedPoint :=
  match n.readSignal event.payload with
  | .error e => throw (payloadError e)
  | .ok signal =>
      if signal.timestamp.isNaive then throw (.valueError "signal timestamp must be timezone-aware")
      else do
        let (value, unit) ← n.convert signal
        pure
          { id := "norm-" ++ event.id
            tenantId := event.tenantId
            source := event.source
            metric := signal.metric
            timestamp := signal.timestamp
            value := value
            unit := unit
            rawEventId := event.id
            rawPayloadHash := event.payloadHash
            transformation := signal.unit ++ "->" ++ unit }

end NormalizeEnv

/-! ## Time series -/

/-- The series by tenant and metric, the points of a series by timestamp. -/
structure TimeSeriesStore where
  points : Dict (String × String) (Dict DateTime NormalizedPoint)

namespace TimeSeriesStore

def empty : TimeSeriesStore := ⟨.empty⟩

/-- The series of a tenant and metric. -/
def series (store : TimeSeriesStore) (key : String × String) : Dict DateTime NormalizedPoint :=
  (store.points.get? key).getD .empty

def agrees (stored point : NormalizedPoint) : Bool :=
  decimalEq stored.value point.value && stored.unit = point.unit

/-- `append`: whether the point is new. -/
def append (store : TimeSeriesStore) (point : NormalizedPoint) :
    Except PyError (Bool × TimeSeriesStore) :=
  let key := (point.tenantId, point.metric)
  match (store.series key).get? point.timestamp with
  | some stored =>
      if agrees stored point then pure (false, store)
      else throw (.valueError "conflicting point at identical timestamp")
  | none =>
      pure (true, ⟨store.points.set key ((store.series key).set point.timestamp point)⟩)

/-- The stored point at a tenant, a metric and a timestamp. -/
def lookup (store : TimeSeriesStore) (place : (String × String) × DateTime) :
    Option NormalizedPoint :=
  (store.series place.1).get? place.2

end TimeSeriesStore

end ComputeWeaver.Ingestion
