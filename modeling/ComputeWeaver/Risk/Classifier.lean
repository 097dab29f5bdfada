/-
Risk.Classifier — risk levels and the classifier that
assigns them (`packages/risk/classifier.py`).

`RiskLevel` is an `IntEnum`: its members order by their integer value, and
converting an integer outside 0..4 raises `ValueError`.
-/
import ComputeWeaver.Lib.Python

namespace ComputeWeaver.Risk

open Lib

inductive RiskLevel where
  | L0 | L1 | L2 | L3 | L4
  deriving DecidableEq, Repr

namespace RiskLevel

/-- `int(risk)`. -/
def toInt : RiskLevel → Int
  | L0 => 0
  | L1 => 1
  | L2 => 2
  | L3 => 3
  | L4 => 4

instance : LE RiskLevel := ⟨fun a b => a.toInt ≤ b.toInt⟩

instance (a b : RiskLevel) : Decidable (a ≤ b) :=
  inferInstanceAs (Decidable (a.toInt ≤ b.toInt))

/-- `RiskLevel(value)`. -/
def ofInt (value : Int) : Except PyError RiskLevel :=
  if value = 0 then pure L0
  else if value = 1 then pure L1
  else if value = 2 then pure L2
  else if value = 3 then pure L3
  else if value = 4 then pure L4
  else throw (.valueError s!"{value} is not a valid RiskLevel")

theorem le_trans {a b c : RiskLevel} (hab : a ≤ b) (hbc : b ≤ c) : a ≤ c :=
  Int.le_trans hab hbc

/-- The levels from L2 up, from L3 up: what the thresholds of the code
compare with. -/
theorem L2_le_of_L3_le {r : RiskLevel} (h : L3 ≤ r) : L2 ≤ r :=
  le_trans (by decide) h

end RiskLevel

/-- `classify`. -/
def classify (externalWrite energyAction reversible criticalServiceImpact
    safetyBoundaryChange : Bool) : RiskLevel :=
  if safetyBoundaryChange then .L4
  else if criticalServiceImpact || (energyAction && !reversible) then .L3
  else if externalWrite || energyAction then .L2
  else if !reversible then .L1
  else .L0

end ComputeWeaver.Risk
