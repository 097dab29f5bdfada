/-
Forecasting.ModelsTheorems — which observations a forecast rests on
(`packages/forecasting/models.py`).

Datetimes are in microseconds, decimals exact rationals. What a timezone or a float
decides is a parameter.
-/
import Mathlib.Data.Rat.Cast.Order
import ComputeWeaver.Lib.Python

namespace ComputeWeaver.Forecasting

open Lib

structure ObservedValue where
  timestamp : Int
  value : ℚ

/-- A point with its `quantiles` p10, p50 and p90. -/
structure ForecastPoint where
  timestamp : Int
  point : ℚ
  lower : ℚ
  upper : ℚ
  quantiles : ℚ × ℚ × ℚ

structure ForecastBundle where
  id : String
  signal : String
  points : List ForecastPoint
  modelVersion : String
  generatedAt : Int
  validFor : Int × Int
  quality : ℚ
  lineage : List String

/-- `ForecastPoint(…)` as the models call it. -/
def forecastPoint (timestamp : Int) (point lower upper : ℚ) : Except PyError ForecastPoint :=
  if lower ≤ point ∧ point ≤ upper then pure ⟨timestamp, point, lower, upper, (lower, point, upper)⟩
  else throw (.valueError "forecast interval must contain point estimate")

structure ForecastEnv where
  hourMinute : Int → Nat × Nat
  isoformat : Int → String
  /-- `int(start.timestamp())` -/
  seconds : Int → Int
  /-- `int(n * 0.1)` and `int(n * 0.9)` -/
  lowRank : Nat → Int
  highRank : Nat → Int
  lowRank_le : ∀ n, lowRank n ≤ n
  highRank_nonneg : ∀ n, 0 ≤ highRank n

/-- The keyword arguments of `forecast`. -/
structure Window where
  start : Int
  periods : Int
  step : Int
  modelVersion : String
  signal : String

variable (env : ForecastEnv)

/-- `ForecastBundle(…)` as the models call it. -/
def forecastBundle (history : List ObservedValue) (window : Window) (points : List ForecastPoint)
    (quality : ℚ) : Except PyError ForecastBundle :=
  let { start, periods, step, modelVersion, signal } := window
  let timestamps := points.map (·.timestamp)
  if ¬ (0 ≤ quality ∧ quality ≤ 1) then throw (.valueError "forecast quality must be in [0,1]")
  else if timestamps ≠ pySortedSet timestamps.toFinset then
    throw (.valueError "forecast points must be unique and ordered")
  else
    let id := "forecast-" ++ signal ++ "-" ++ toString (env.seconds start)
    pure ⟨id, signal, points, modelVersion, start, (start, start + periods * step), quality,
      history.map fun item => env.isoformat item.timestamp⟩

/-- `PersistenceModel.forecast`. -/
def persistence (history : List ObservedValue) (window : Window) :
    Except PyError ForecastBundle :=
  match history.getLast? with
  | none => throw (.valueError "history is required")
  | some last =>
    if window.start ≤ last.timestamp then throw (.valueError
      "future-data leakage: training observation overlaps forecast window")
    else do
      let ordered := pySorted (· ≤ ·) (history.map (·.value))
      let lower ← pyIndex ordered (max 0 (env.lowRank ordered.length - 1))
      let upper ← pyIndex ordered (min (ordered.length - 1) (env.highRank ordered.length))
      let points ← (List.range window.periods.toNat).mapM fun index =>
        forecastPoint (window.start + index * window.step) last.value (min lower last.value)
          (max upper last.value)
      forecastBundle env history window points (7 / 10)

/-- `SeasonalModel.forecast`. -/
def seasonal (history : List ObservedValue) (window : Window) : Except PyError ForecastBundle :=
  let failed := PyError.valueError "leakage-safe historical data is required"
  match history.getLast? with
  | none => throw failed
  | some last =>
    if window.start ≤ last.timestamp then throw failed
    else do
      let points ← (List.range window.periods.toNat).mapM fun (index : Nat) =>
        let timestamp := window.start + index * window.step
        -- `seasonal.get((timestamp.hour, timestamp.minute), [fallback])`
        let same := (history.filter fun item =>
          env.hourMinute item.timestamp = env.hourMinute timestamp).map (·.value)
        let values := if same = [] then [last.value] else same
        let point := values.sum / values.length
        let spread := (values.max?.getD 0) - (values.min?.getD 0)
        forecastPoint timestamp point (point - spread) (point + spread)
      forecastBundle env history window points (8 / 10)

inductive Model where
  | persistence
  | seasonal

def Model.forecast : Model → List ObservedValue → Window → Except PyError ForecastBundle
  | .persistence => Forecasting.persistence env
  | .seasonal => Forecasting.seasonal env

/-- If the last observation is before the start, all of them are. -/
def LastDecides (history : List ObservedValue) (start : Int) : Prop :=
  ∀ last ∈ history.getLast?, last.timestamp < start →
    ∀ item ∈ history, item.timestamp < start

instance (history : List ObservedValue) (start : Int) : Decidable (LastDecides history start) :=
  inferInstanceAs (Decidable (∀ last ∈ history.getLast?, _ → ∀ item ∈ history, _))

variable {env} {history : List ObservedValue} {window : Window} {bundle : ForecastBundle}

/-- Each model checks the last observation. -/
theorem last_before_start {model : Model} (h : model.forecast env history window = .ok bundle) :
    ∃ last ∈ history.getLast?, last.timestamp < window.start := by
  cases model with
  | persistence | seasonal =>
    simp only [Model.forecast, persistence, seasonal] at h
    split at h
    · cases h
    split at h
    · cases h
    rename_i last hlast hstart
    exact ⟨last, hlast, Int.not_le.mp hstart⟩

theorem all_before_start (hlast : LastDecides history window.start) {model : Model}
    (h : model.forecast env history window = .ok bundle) :
    ∀ item ∈ history, item.timestamp < window.start := by
  obtain ⟨last, hmem, hbefore⟩ := last_before_start h
  exact hlast last hmem hbefore

/-- A forecast of no periods, which fails at no later check. -/
def emptyWindow (start : Int) : Window := ⟨start, 0, 0, "", ""⟩

/-- No other observation than the last is checked. -/
theorem forecast_emptyWindow {start : Int} {last : ObservedValue}
    (hlast : history.getLast? = some last) (hbefore : last.timestamp < start) (model : Model) :
    ∃ bundle, model.forecast env history (emptyWindow start) = .ok bundle := by
  have hstart : ¬ start ≤ last.timestamp := Int.not_le.mpr hbefore
  have hbundle (quality : ℚ) (h : 0 ≤ quality ∧ quality ≤ 1) :
      ∃ bundle, forecastBundle env history (emptyWindow start) [] quality = .ok bundle := by
    refine ⟨_, (if_neg (not_not.mpr h)).trans (if_neg (not_not.mpr ?_))⟩
    rfl
  cases model with
  | seasonal =>
    simp only [Model.forecast, seasonal, hlast, emptyWindow, hstart, if_false]
    exact hbundle (8 / 10) (by decide +kernel)
  | persistence =>
    have hnonempty : 0 < history.length :=
      List.length_pos_of_mem (List.mem_of_getLast? hlast)
    set ordered := pySorted (· ≤ ·) (history.map (·.value)) with hordered
    have hlength : ordered.length = history.length := by
      rw [hordered, (pySorted_perm _ _).length_eq, List.length_map]
    have hlow := env.lowRank_le ordered.length
    have hhigh := env.highRank_nonneg ordered.length
    obtain ⟨lower, hlower⟩ := @pyIndex_ok _ ordered
      (max 0 (env.lowRank ordered.length - 1)) (by omega) (by omega)
    obtain ⟨upper, hupper⟩ := @pyIndex_ok _ ordered
      (min (ordered.length - 1) (env.highRank ordered.length)) (by omega) (by omega)
    simp only [Model.forecast, persistence, hlast, emptyWindow, hstart, if_false, ← hordered,
      hlower, hupper]
    exact hbundle (7 / 10) (by decide +kernel)

def sampleEnv : ForecastEnv :=
  ⟨fun _ => (0, 0), toString, (· / 1000000), fun n => n / 10, fun n => n * 9 / 10,
    fun n => Int.ediv_le_self _ (Int.natCast_nonneg n),
    fun n => Int.ediv_nonneg (by omega) (by omega)⟩

def sampleWindow : Window := ⟨5, 1, 1, "persistence-1", "load"⟩

end ComputeWeaver.Forecasting
