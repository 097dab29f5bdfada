/-
Policies.Engine — policies, their rules and the decisions made from
them, in memory (`packages/policy/models.py`, `packages/policy/engine.py`).

The values of facts and rules are any Python objects, so the type of values is
a variable; `PyCompare` has their comparison operators, which may raise. The
store is keyed by id and version, and the tenant of a policy is in its value.
-/
import ComputeWeaver.Lib.Python
import ComputeWeaver.Lib.Run

namespace ComputeWeaver.Policies

open Lib

/-! ## Rules -/

/-- The comparison operators of Python objects. -/
class PyCompare (V : Type) where
  eq : V → V → Except PyError Bool
  ne : V → V → Except PyError Bool
  lt : V → V → Except PyError Bool
  le : V → V → Except PyError Bool
  gt : V → V → Except PyError Bool
  ge : V → V → Except PyError Bool
  /-- `item in container` -/
  isIn : V → V → Except PyError Bool

/-- Integers; `in` needs a container. -/
instance : PyCompare Int where
  eq a b := pure (decide (a = b))
  ne a b := pure (decide (a ≠ b))
  lt a b := pure (decide (a < b))
  le a b := pure (decide (a ≤ b))
  gt a b := pure (decide (a > b))
  ge a b := pure (decide (a ≥ b))
  isIn _ _ := throw .typeError

structure PolicyRule (V : Type) where
  field : String
  operator : String
  value : V
  deriving DecidableEq

section

variable {V : Type} [PyCompare V]

/-- `operations[operator]`. -/
def operation (operator : String) (actual value : V) : Option (Except PyError Bool) :=
  match operator with
  | "eq" => some (PyCompare.eq actual value)
  | "ne" => some (PyCompare.ne actual value)
  | "lt" => some (PyCompare.lt actual value)
  | "lte" => some (PyCompare.le actual value)
  | "gt" => some (PyCompare.gt actual value)
  | "gte" => some (PyCompare.ge actual value)
  | "in" => some (PyCompare.isIn actual value)
  | "contains" => some (PyCompare.isIn value actual)
  | _ => none

def evaluateRule (rule : PolicyRule V) (facts : Dict String V) : Except PyError Bool :=
  match facts.get? rule.field with
  | none => pure false
  | some actual =>
      match operation rule.operator actual rule.value with
      -- a `KeyError` of the comparison itself is taken for a missing operator too
      | none | some (.error (.keyError _)) =>
          throw (.valueError ("unsupported policy operator " ++ rule.operator))
      | some result => result

end

/-! ## Policies -/

inductive Enforcement where
  | hard
  | soft
  deriving DecidableEq, Repr

structure Policy (V : Type) where
  id : String
  version : Int
  tenantId : String
  siteIds : Finset String
  rule : PolicyRule V
  enforcement : Enforcement
  priority : Int
  owner : String
  published : Bool
  deriving DecidableEq

namespace Policy

variable {V : Type}

def key (policy : Policy V) : String × Int := (policy.id, policy.version)

/-- `f"{policy.id}@{policy.version}"`. -/
def label (policy : Policy V) : String := policy.id ++ "@" ++ toString policy.version

/-- The order of the keys `(-priority, id)`. -/
def before (a b : Policy V) : Bool :=
  decide (b.priority < a.priority) || (decide (a.priority = b.priority) && decide (a.id ≤ b.id))

/-- The filter of `evaluate`. -/
def activeAt (policy : Policy V) (tenantId siteId : String) : Bool :=
  policy.published && decide (policy.tenantId = tenantId) &&
    (decide (policy.siteIds = ∅) || decide (siteId ∈ policy.siteIds))

end Policy

/-- A call of `publish`. -/
structure PublishCall (V : Type) where
  policy : Policy V
  actorRoles : Finset String

/-! ## The engine -/

structure PolicyDecision where
  allowed : Bool
  hardViolations : List String
  warnings : List String
  activePolicies : List String
  explanation : List String
  deriving DecidableEq, Repr

/-- What `evaluate` collects. -/
structure Findings where
  hard : List String
  warnings : List String
  explanation : List String

/-- `PolicyEngine` without a database. -/
structure PolicyEngine (V : Type) where
  policies : Dict (String × Int) (Policy V)

section

variable {V : Type} [PyCompare V]

/-- The body of the loop of `_validate_against`. -/
def checkConflict (policy other : Policy V) : Except PyError Unit := do
  if other.published = true ∧ other.tenantId = policy.tenantId ∧
      other.siteIds ∩ policy.siteIds ≠ ∅ ∧ other.rule.field = policy.rule.field ∧
      other.priority = policy.priority ∧ other.rule.operator = "eq" ∧
      policy.rule.operator = "eq" then
    if ← PyCompare.ne other.rule.value policy.rule.value then
      throw (.valueError ("policy conflict with " ++ other.label))

def validateAgainst (policy : Policy V) (existing : List (Policy V)) : Except PyError Unit :=
  existing.forM (checkConflict policy)

/-- The checks of `publish` against the policies of the tenant. -/
def PublishCall.check (call : PublishCall V) (existing : List (Policy V)) :
    Except PyError Unit := do
  if call.policy.enforcement = .hard ∧ "safety_admin" ∉ call.actorRoles then
    throw (.permissionError "only safety_admin can publish hard policy")
  validateAgainst call.policy existing

/-- The body of the loop of `evaluate`. -/
def judge (facts : Dict String V) (findings : Findings) (policy : Policy V) :
    Except PyError Findings := do
  let matched ← evaluateRule policy.rule facts
  let explanation :=
    findings.explanation ++ [policy.label ++ ":" ++ if matched then "matched" else "failed"]
  if matched then pure { findings with explanation := explanation }
  else if policy.enforcement = .hard then
    pure { findings with hard := findings.hard ++ [policy.id], explanation := explanation }
  else
    pure { findings with
      warnings := findings.warnings ++ [policy.id]
      explanation := explanation }

namespace PolicyEngine

def empty : PolicyEngine V := ⟨.empty⟩

/-- `_tenant_policies`. -/
def tenantPolicies (engine : PolicyEngine V) (tenantId : String) : List (Policy V) :=
  (engine.policies.entries.map Prod.snd).filter fun item => decide (item.tenantId = tenantId)

def validatePublish (engine : PolicyEngine V) (policy : Policy V) : Except PyError Unit :=
  validateAgainst policy (engine.tenantPolicies policy.tenantId)

def publish (engine : PolicyEngine V) (call : PublishCall V) :
    Except PyError (Policy V) × PolicyEngine V :=
  match call.check (engine.tenantPolicies call.policy.tenantId) with
  | .error e => (.error e, engine)
  | .ok () =>
      let published := { call.policy with published := true }
      (.ok published, ⟨engine.policies.set call.policy.key published⟩)

/-- The policies that a decision rests on, the most important first. -/
def active (engine : PolicyEngine V) (tenantId siteId : String) : List (Policy V) :=
  pySorted Policy.before
    ((engine.tenantPolicies tenantId).filter fun item => item.activeAt tenantId siteId)

def evaluate (engine : PolicyEngine V) (tenantId siteId : String) (facts : Dict String V) :
    Except PyError PolicyDecision := do
  let active := engine.active tenantId siteId
  let findings ← active.foldlM (judge facts) ⟨[], [], []⟩
  pure
    { allowed := findings.hard.isEmpty
      hardViolations := findings.hard
      warnings := findings.warnings
      activePolicies := active.map Policy.label
      explanation := findings.explanation }

/-- `publish`, as a step of a run. -/
def step (engine : PolicyEngine V) (call : PublishCall V) : PolicyEngine V :=
  (engine.publish call).2

end PolicyEngine

end

end ComputeWeaver.Policies
