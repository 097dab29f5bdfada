/-
Execution.CompensationTheorems — what a transaction undoes.

To see which compensations run, `watched` lets every operation note its
position and evidence when it is compensated. Watching changes neither the
outcome nor the state (`executeTransaction_watched`), and the notes are the
completed operations in reverse (`notes_compensateAll`), whether or not a
compensation raises.
-/
import Mathlib.Data.List.Zip
import ComputeWeaver.Execution.Compensation

namespace ComputeWeaver.Execution

open Lib List

section

variable {σ E R : Type}

/-- A list of operations of which none raises, and the evidence they return. -/
inductive Applied : List (Operation σ E R) → σ → List E → σ → Prop
  | nil (s : σ) : Applied [] s [] s
  | cons {operation : Operation σ E R} {rest : List (Operation σ E R)} {s s' s'' : σ}
      {evidence : E} {others : List E} (head : operation.apply s = (.ok evidence, s'))
      (tail : Applied rest s' others s'') :
      Applied (operation :: rest) s (evidence :: others) s''

variable {pre post operations : List (Operation σ E R)} {operation : Operation σ E R}
  {s s' s'' : σ} {es : List E} {e : PyError}

theorem Applied.length (h : Applied pre s es s') : es.length = pre.length := by
  induction h with
  | nil s => rfl
  | cons head tail ih => simp [ih]

theorem applyAll_append (h : Applied pre s es s') (post : List (Operation σ E R))
    (completed : List (Operation σ E R × E)) :
    applyAll (pre ++ post) completed s = applyAll post (completed ++ pre.zip es) s' := by
  induction h generalizing completed with
  | nil s => simp
  | cons head tail ih =>
    simp only [cons_append, applyAll, head, ih]
    simp

theorem executeTransaction_returns (h : Applied operations s es s') :
    executeTransaction operations s = (.ok es, s') := by
  have hall := applyAll_append h [] []
  rw [append_nil, nil_append] at hall
  simp only [executeTransaction, hall, applyAll]
  rw [map_snd_zip h.length.le]

theorem executeTransaction_raises (h : Applied pre s es s')
    (hraise : operation.apply s' = (.error e, s'')) :
    (∃ error, (executeTransaction (pre ++ operation :: post) s).1 = .error error) ∧
      (executeTransaction (pre ++ operation :: post) s).2 =
        (compensateAll (pre.zip es).reverse s'').2 := by
  unfold executeTransaction
  rw [applyAll_append h, nil_append]
  simp only [applyAll, hraise]
  split
  · rename_i hundo
    exact ⟨⟨e, rfl⟩, by rw [hundo]⟩
  · rename_i hundo
    exact ⟨⟨_, rfl⟩, by rw [hundo]⟩

/-! ## Watching the compensations -/

/-- An operation that notes its compensations. -/
def watch (operation : Operation σ E R) (position : Nat) :
    Operation (σ × List (Nat × E)) E R where
  apply s := ((operation.apply s.1).1, (operation.apply s.1).2, s.2)
  compensate evidence s := ((operation.compensate evidence s.1).1,
    (operation.compensate evidence s.1).2, s.2 ++ [(position, evidence)])

theorem watch_apply (operation : Operation σ E R) (n : Nat) (s : σ × List (Nat × E)) :
    (watch operation n).apply s = ((operation.apply s.1).1, (operation.apply s.1).2, s.2) := rfl

theorem watch_compensate (operation : Operation σ E R) (n : Nat) (evidence : E)
    (s : σ × List (Nat × E)) : (watch operation n).compensate evidence s =
      ((operation.compensate evidence s.1).1, (operation.compensate evidence s.1).2,
        s.2 ++ [(n, evidence)]) := rfl

def watched (operations : List (Operation σ E R)) :
    List (Operation (σ × List (Nat × E)) E R) :=
  operations.zipIdx.map fun operation => watch operation.1 operation.2

theorem Applied.watched (h : Applied pre s es s') (notes : List (Nat × E)) (n : Nat) :
    Applied ((pre.zipIdx n).map fun operation => watch operation.1 operation.2) (s, notes) es
      (s', notes) := by
  induction h generalizing n with
  | nil s => exact .nil _
  | cons head tail ih =>
    exact .cons (by simp [watch_apply, head]) (ih (n + 1))

theorem notes_compensateAll (completed : List ((Operation σ E R × Nat) × E))
    (s : σ × List (Nat × E)) :
    (compensateAll (completed.map fun c => (watch c.1.1 c.1.2, c.2)) s).2.2 =
      s.2 ++ completed.map fun c => (c.1.2, c.2) := by
  induction completed generalizing s with
  | nil => simp [compensateAll]
  | cons c rest ih =>
    cases hcompensate : c.1.1.compensate c.2 s.1 with
    | mk outcome s' => cases outcome <;> simp [compensateAll, watch_compensate, hcompensate, ih]

/-- Watching changes neither the outcome nor the state of the handler. -/
theorem compensateAll_watched (completed : List ((Operation σ E R × Nat) × E))
    (s : σ × List (Nat × E)) :
    (compensateAll (completed.map fun c => (watch c.1.1 c.1.2, c.2)) s).1 =
        (compensateAll (completed.map fun c => (c.1.1, c.2)) s.1).1 ∧
      (compensateAll (completed.map fun c => (watch c.1.1 c.1.2, c.2)) s).2.1 =
        (compensateAll (completed.map fun c => (c.1.1, c.2)) s.1).2 := by
  induction completed generalizing s with
  | nil => exact ⟨rfl, rfl⟩
  | cons c rest ih =>
    cases hcompensate : c.1.1.compensate c.2 s.1 with
    | mk outcome s' =>
      cases outcome with
      | ok r | error e => simpa [compensateAll, watch_compensate, hcompensate] using ih _

theorem applyAll_watched (operations : List (Operation σ E R)) (n : Nat)
    (completed : List ((Operation σ E R × Nat) × E)) (s : σ × List (Nat × E)) :
    ∃ (completed' : List ((Operation σ E R × Nat) × E)) (s' : σ),
      applyAll operations (completed.map fun c => (c.1.1, c.2)) s.1 =
        ((applyAll operations (completed.map fun c => (c.1.1, c.2)) s.1).1,
          completed'.map fun c => (c.1.1, c.2), s') ∧
      applyAll ((operations.zipIdx n).map fun operation => watch operation.1 operation.2)
          (completed.map fun c => (watch c.1.1 c.1.2, c.2)) s =
        ((applyAll operations (completed.map fun c => (c.1.1, c.2)) s.1).1,
          completed'.map fun c => (watch c.1.1 c.1.2, c.2), s', s.2) := by
  induction operations generalizing n completed s with
  | nil => exact ⟨completed, s.1, rfl, rfl⟩
  | cons operation rest ih =>
    cases happly : operation.apply s.1 with
    | mk outcome s' =>
      cases outcome with
      | ok evidence =>
        have hnext := ih (n + 1) (completed ++ [((operation, n), evidence)]) (s', s.2)
        simpa [applyAll, watch_apply, happly] using hnext
      | error e => exact ⟨completed, s', by simp [applyAll, happly],
        by simp [applyAll, watch_apply, happly]⟩

theorem executeTransaction_watched (operations : List (Operation σ E R)) (s : σ) :
    ((executeTransaction (watched operations) (s, [])).1,
      (executeTransaction (watched operations) (s, [])).2.1) = executeTransaction operations s := by
  obtain ⟨completed, s', hplain, hwatched⟩ := applyAll_watched operations 0 [] (s, [])
  simp only [map_nil] at hplain hwatched
  unfold executeTransaction watched
  rw [hwatched, hplain]
  cases (applyAll operations [] s).1 with
  | none => simp
  | some e =>
    dsimp only
    have hundo := compensateAll_watched completed.reverse (s', [])
    simp only [map_reverse] at hundo
    generalize compensateAll (completed.map fun c => (watch c.1.1 c.1.2, c.2)).reverse (s', []) =
      watchedUndo at hundo ⊢
    generalize compensateAll (completed.map fun c => (c.1.1, c.2)).reverse s' = undo at hundo ⊢
    obtain ⟨errors, s₁, notes⟩ := watchedUndo
    obtain ⟨errors', s₂⟩ := undo
    obtain ⟨rfl, rfl⟩ := hundo
    cases errors <;> rfl

/-- The compensations that run when the operation after `pre` raises. -/
theorem notes_raises (h : Applied pre s es s') (hraise : operation.apply s' = (.error e, s'')) :
    (executeTransaction (watched (pre ++ operation :: post)) (s, [])).2.2 =
      ((List.range pre.length).zip es).reverse := by
  have hsplit : watched (pre ++ operation :: post) =
      (pre.zipIdx.map fun operation => watch operation.1 operation.2) ++
        watch operation pre.length :: ((post.zipIdx (pre.length + 1)).map fun operation =>
          watch operation.1 operation.2) := by
    simp [watched, zipIdx_append]
  have hwatch : (watch operation pre.length).apply (s', []) = (.error e, s'', []) := by
    simp [watch_apply, hraise]
  rw [hsplit, (executeTransaction_raises (h.watched [] 0) hwatch).2, zip_map_left]
  have hnotes := notes_compensateAll (pre.zipIdx.zip es).reverse (s'', [])
  rw [map_reverse, map_reverse, nil_append] at hnotes
  have hzip : (pre.zipIdx.zip es).map (fun c => (c.1.2, c.2)) = (List.range pre.length).zip es := by
    rw [range_eq_range', ← zipIdx_map_snd, zip_map_left]
    rfl
  rw [← hzip]
  exact hnotes

end

/-! ## The simulator -/

/-- One operation of a transaction on the simulator. -/
structure SimulatorStep where
  failure : SimulatorExecutor → Option PyError
  kind : String
  parameters : Document

def SimulatorStep.operation (step : SimulatorStep) :
    Operation SimulatorExecutor Evidence (Dict String Value) :=
  SimulatorExecutor.operation step.failure step.kind step.parameters

theorem compensateAll_simulator (completed : List (SimulatorStep × Evidence))
    (executor : SimulatorExecutor) :
    compensateAll (completed.map fun c => (c.1.operation, c.2)) executor =
      ([], (completed.getLast?.map fun c => ⟨c.2.previous⟩).getD executor) := by
  induction completed generalizing executor with
  | nil => rfl
  | cons c rest ih =>
    have hstep : compensateAll ((c :: rest).map fun c => (c.1.operation, c.2)) executor =
        compensateAll (rest.map fun c => (c.1.operation, c.2)) ⟨c.2.previous⟩ := rfl
    rw [hstep, ih, getLast?_cons]
    cases rest.getLast? <;> rfl

/-- The transaction fails at the first operation that raises, with the state
untouched by it. -/
theorem applyAll_simulator (steps : List SimulatorStep)
    (completed : List (SimulatorStep × Evidence)) (executor initial : SimulatorExecutor)
    (hinitial : (completed.head?.map fun c => ⟨c.2.previous⟩).getD executor = initial) :
    ∃ (completed' : List (SimulatorStep × Evidence)) (executor' : SimulatorExecutor)
      (raised : Option PyError),
      applyAll (steps.map SimulatorStep.operation) (completed.map fun c => (c.1.operation, c.2))
          executor = (raised, completed'.map fun c => (c.1.operation, c.2), executor') ∧
        (completed'.head?.map fun c => ⟨c.2.previous⟩).getD executor' = initial := by
  induction steps generalizing completed executor with
  | nil => exact ⟨completed, executor, none, rfl, hinitial⟩
  | cons step rest ih =>
    cases hfailure : step.failure executor with
    | some e =>
      refine ⟨completed, executor, some e, ?_, hinitial⟩
      simp [applyAll, SimulatorStep.operation, SimulatorExecutor.operation, hfailure]
    | none =>
      have happly : step.operation.apply executor =
          (.ok (executor.execute step.kind step.parameters).1,
            (executor.execute step.kind step.parameters).2) := by
        simp [SimulatorStep.operation, SimulatorExecutor.operation, hfailure]
      have hnext := ih (completed ++ [(step, (executor.execute step.kind step.parameters).1)])
        (executor.execute step.kind step.parameters).2 (by
          -- the first evidence stays first; where there was none, it is the new one
          cases completed with
          | nil => exact hinitial
          | cons c others => exact hinitial)
      simpa [applyAll, happly] using hnext

theorem failed_transaction_restores (steps : List SimulatorStep) (executor : SimulatorExecutor)
    {e : PyError}
    (h : (executeTransaction (steps.map SimulatorStep.operation) executor).1 = .error e) :
    (executeTransaction (steps.map SimulatorStep.operation) executor).2 = executor := by
  obtain ⟨completed, executor', raised, happly, hinitial⟩ :=
    applyAll_simulator steps [] executor executor rfl
  unfold executeTransaction at h ⊢
  rw [map_nil] at happly
  rw [happly] at h ⊢
  cases raised with
  | none => simp at h
  | some e =>
    have hundo := compensateAll_simulator completed.reverse executor'
    rw [map_reverse, getLast?_reverse, hinitial] at hundo
    simp only [hundo]

/-- The first operation sets a dispatch plan, the second raises. -/
def failingSteps : List SimulatorStep :=
  [⟨fun _ => none, "set_dispatch_plan", [("power_kw", .int 40)]⟩,
   ⟨fun _ => some (.valueError "unknown job"), "schedule_job", []⟩]

end ComputeWeaver.Execution
