/-
Ingestion.Processor — the circuit breaker and the ingestion of a
batch (`packages/connectors/base.py`, `apps/worker/ingestion.py`).

A batch is worked through event by event: the raw event is landed, then it is
normalised and its point appended. There is no transaction around the batch, nor
around the two appends of an event; what was appended before something raises
stays. `process` is the loop of the source, `Append` names its single appends,
so that an interruption can be put between any two of them.

Readings of `time.monotonic()` are inputs.
-/
import ComputeWeaver.Ingestion.Stores
import ComputeWeaver.Lib.Replay

namespace ComputeWeaver.Ingestion

open Lib

/-! ## The circuit breaker -/

inductive ConnectorState where
  | healthy
  | degraded
  | opened
  deriving DecidableEq, Repr

structure CircuitBreaker where
  failureThreshold : Int := 3
  recoverySeconds : ℚ := 30
  failures : Int := 0
  openedAt : Option ℚ := none
  deriving DecidableEq

namespace CircuitBreaker

def state (breaker : CircuitBreaker) (now : ℚ) : ConnectorState :=
  match breaker.openedAt with
  | none => if breaker.failures = 0 then .healthy else .degraded
  | some openedAt =>
      if breaker.recoverySeconds ≤ now - openedAt then .degraded else .opened

variable {σ α : Type}

/-- The loop of `execute`, with the attempts that are left. -/
def attempt (operation : σ → Except PyError α × σ) (clock : Nat → ℚ) :
    Nat → CircuitBreaker → σ → Except PyError α × CircuitBreaker × σ
  | 0, breaker, s => (.error (.connectionError "connector operation failed"), breaker, s)
  | left + 1, breaker, s =>
      match operation s with
      | (.ok result, s) => (.ok result, { breaker with failures := 0, openedAt := none }, s)
      | (.error _, s) =>
          let breaker := { breaker with failures := breaker.failures + 1 }
          if breaker.failureThreshold ≤ breaker.failures then
            (.error (.connectionError "connector operation failed"),
              { breaker with openedAt := some (clock left) }, s)
          else attempt operation clock left breaker s

/-- `execute`. The clock is read before the operation and after a failure that
opens the circuit. -/
def execute (breaker : CircuitBreaker) (operation : σ → Except PyError α × σ) (retries : Nat)
    (now : ℚ) (clock : Nat → ℚ) (s : σ) : Except PyError α × CircuitBreaker × σ :=
  if breaker.state now = .opened then
    (.error (.connectionError "connector circuit is open"), breaker, s)
  else attempt operation clock (retries + 1) breaker s

end CircuitBreaker

/-! ## The processor -/

structure Stores where
  raw : RawLanding
  points : TimeSeriesStore

def Stores.empty : Stores := ⟨.empty, .empty⟩

structure IngestionResult where
  acceptedRaw : Nat
  acceptedPoints : Nat
  duplicates : Nat
  deriving DecidableEq, Repr

namespace IngestionResult

def zero : IngestionResult := ⟨0, 0, 0⟩

/-- The counters after a raw event, new or not. -/
def landed (result : IngestionResult) (accepted : Bool) : IngestionResult :=
  if accepted then { result with acceptedRaw := result.acceptedRaw + 1 }
  else { result with duplicates := result.duplicates + 1 }

/-- The counters after a point, new or not. -/
def pointed (result : IngestionResult) (accepted : Bool) : IngestionResult :=
  if accepted then { result with acceptedPoints := result.acceptedPoints + 1 } else result

end IngestionResult

structure IngestionProcessor where
  stores : Stores
  breaker : CircuitBreaker := {}

namespace NormalizeEnv

variable (n : NormalizeEnv)

/-- `process`: the loop over the events, and the stores it leaves. -/
def process : List RawEvent → IngestionResult → Stores → Except PyError IngestionResult × Stores
  | [], result, s => (.ok result, s)
  | event :: rest, result, s =>
      match s.raw.append event with
      | .error e => (.error e, s)
      | .ok (landed, raw) =>
          match n.normalize event with
          | .error e => (.error e, { s with raw := raw })
          | .ok point =>
              match s.points.append point with
              | .error e => (.error e, { s with raw := raw })
              | .ok (pointed, points) =>
                  process rest ((result.landed landed).pointed pointed) ⟨raw, points⟩

/-- `ingest`, at the two readings of the clock. -/
def ingest (processor : IngestionProcessor) (events : List RawEvent) (now failedAt : ℚ) :
    Except PyError IngestionResult × IngestionProcessor :=
  match processor.breaker.execute (n.process events .zero) 0 now (fun _ => failedAt)
      processor.stores with
  | (outcome, breaker, stores) => (outcome, ⟨stores, breaker⟩)

end NormalizeEnv

/-! ## Single appends -/

inductive Append where
  | raw (event : RawEvent)
  | point (event : RawEvent)

/-- The appends of a batch, in order. -/
def appends (events : List RawEvent) : List Append :=
  events.flatMap fun event => [.raw event, .point event]

/-- One append: whether it was accepted. -/
def NormalizeEnv.append (n : NormalizeEnv) (s : Stores) : Append → Except PyError (Bool × Stores)
  | .raw event => do
      let (accepted, raw) ← s.raw.append event
      pure (accepted, { s with raw := raw })
  | .point event => do
      let point ← n.normalize event
      let (accepted, points) ← s.points.append point
      pure (accepted, { s with points := points })

/-- The stores after the first `k` appends of a batch. -/
def NormalizeEnv.interrupted (n : NormalizeEnv) (events : List RawEvent) (k : Nat) (s : Stores) :
    Stores :=
  (applyAll n.append ((appends events).take k) s).2

end ComputeWeaver.Ingestion
