/-
Tariffs.Models — tariff plans (`packages/tariffs/models.py`).

A `date` is its ordinal, a `time` the microseconds since midnight. A tariff
plan is a value that has passed `__post_init__`: it has a price period, and
neither its demand charge nor its tax rate is negative.
-/
import ComputeWeaver.Lib.Decimal

namespace ComputeWeaver.Tariffs

open Lib

/-- The parsers of dates and times of day. -/
structure CalendarEnv where
  /-- `date.fromisoformat(text)` -/
  parseDate : String → Option Int
  /-- `time.fromisoformat(text)` -/
  parseTime : String → Option Int

namespace CalendarEnv

variable (calendar : CalendarEnv)

def isoDate (text : String) : Except PyError Int :=
  match calendar.parseDate text with
  | some date => pure date
  | none => throw (.valueError "Invalid isoformat string")

def isoTime (text : String) : Except PyError Int :=
  match calendar.parseTime text with
  | some time => pure time
  | none => throw (.valueError "Invalid isoformat string")

end CalendarEnv

structure PricePeriod where
  name : String
  startLocal : Int
  endLocal : Int
  pricePerKwh : PyDecimal
  weekdays : Finset Int

/-- The arguments of `TariffPlan(…)`. -/
structure TariffFields where
  id : String
  version : Int
  currency : String
  timezone : String
  effectiveFrom : Int
  effectiveTo : Option Int
  periods : List PricePeriod
  demandChargePerKw : PyDecimal
  capacityChargePerKw : PyDecimal
  taxRate : PyDecimal
  feedInPricePerKwh : PyDecimal

/-- `value < 0`. -/
def isNegative (value : PyDecimal) : Except PyError Bool := do
  pure !(← (PyDecimal.finite 0).le value)

/-- `__post_init__`. -/
def TariffFields.postInit (fields : TariffFields) : Except PyError Unit := do
  if fields.periods.isEmpty then
    throw (.valueError "tariff requires at least one price period")
  if ← isNegative fields.demandChargePerKw then
    throw (.valueError "tariff charges cannot be negative")
  if ← isNegative fields.taxRate then
    throw (.valueError "tariff charges cannot be negative")

structure TariffPlan extends TariffFields where
  checked : toTariffFields.postInit = .ok ()

/-- `TariffPlan(…)`. -/
def TariffPlan.create (fields : TariffFields) : Except PyError TariffPlan :=
  match h : fields.postInit with
  | .ok () => .ok ⟨fields, h⟩
  | .error e => .error e

end ComputeWeaver.Tariffs
