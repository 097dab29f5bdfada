/-
Execution.Compensation — operations with their compensations
(`packages/execution/compensation.py`) and the simulator they run on
(`packages/execution/adapters.py`).

An operation acts on some state and may raise; both callables return their
outcome next to the state they leave, so that a raising one can have changed
it. `execute_transaction` itself keeps no state.
-/
import ComputeWeaver.Lib.Value

namespace ComputeWeaver.Execution

open Lib

universe u

structure Operation (σ E R : Type u) where
  apply : σ → Except PyError E × σ
  compensate : E → σ → Except PyError R × σ

section

variable {σ E R : Type u}

/-- The loop of the `try`: what it raised, if anything, and `completed`. -/
def applyAll : List (Operation σ E R) → List (Operation σ E R × E) → σ →
    Option PyError × List (Operation σ E R × E) × σ
  | [], completed, s => (none, completed, s)
  | operation :: rest, completed, s =>
      match operation.apply s with
      | (.ok evidence, s) => applyAll rest (completed ++ [(operation, evidence)]) s
      | (.error e, s) => (some e, completed, s)

/-- The loop of the handler: it collects what the compensations raise. -/
def compensateAll : List (Operation σ E R × E) → σ → List PyError × σ
  | [], s => ([], s)
  | (operation, evidence) :: rest, s =>
      match operation.compensate evidence s with
      | (.ok _, s) => compensateAll rest s
      | (.error e, s) => (e :: (compensateAll rest s).1, (compensateAll rest s).2)

def executeTransaction (operations : List (Operation σ E R)) (s : σ) :
    Except PyError (List E) × σ :=
  match applyAll operations [] s with
  | (none, completed, s) => (.ok (completed.map Prod.snd), s)
  | (some e, completed, s) =>
      match compensateAll completed.reverse s with
      | ([], s) => (.error e, s)
      | (_ :: _, s) => (.error (.runtimeError "operation and compensation both failed"), s)

end

/-- What `execute` returns, without its constant `status`. -/
structure Evidence where
  previous : Dict String Value
  current : Dict String Value

/-- The state of a `SimulatorExecutor`: the parameters last set for each kind. -/
structure SimulatorExecutor where
  state : Dict String Value

namespace SimulatorExecutor

def execute (executor : SimulatorExecutor) (kind : String) (parameters : Document) :
    Evidence × SimulatorExecutor :=
  let state := executor.state.set kind (.dict parameters)
  (⟨executor.state, state⟩, ⟨state⟩)

/-- `compensate`, which answers with the state it restores. -/
def compensate (evidence : Evidence) : Dict String Value × SimulatorExecutor :=
  (evidence.previous, ⟨evidence.previous⟩)

/-- `execute` and `compensate` as an operation. What fails, fails before any
change, and may depend on the state. -/
def operation (failure : SimulatorExecutor → Option PyError) (kind : String)
    (parameters : Document) : Operation SimulatorExecutor Evidence (Dict String Value) where
  apply executor :=
    match failure executor with
    | some e => (.error e, executor)
    | none => (.ok (executor.execute kind parameters).1, (executor.execute kind parameters).2)
  compensate evidence _ := (.ok (compensate evidence).1, (compensate evidence).2)

end SimulatorExecutor

end ComputeWeaver.Execution
