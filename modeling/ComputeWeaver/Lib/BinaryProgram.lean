/-
Lib.BinaryProgram — linear programs over 0/1 columns, solved
exactly.

A program has a cost per column and rows of sparse entries between bounds. A
solver is handed the rows as flat arrays, one stretch of entries per row, which
`RowBuffer` keeps; `rowsOf_foldl_push` reads back what was pushed. Where
columns stand for the items of a list, a solution is a choice of items and the
weight of a row is a sum over the chosen ones (`weight_columns`), and every
sublist is such a choice (`exists_chosen`).
-/
import Mathlib.Algebra.Order.Ring.Rat
import Mathlib.Algebra.BigOperators.Group.List.Basic
import Mathlib.Data.List.MinMax
import ComputeWeaver.Lib.Itertools

namespace Lib

open List

/-! ## Programs -/

/-- `lower ≤ Σ value · column ≤ upper`, the lower bound being optional. -/
structure LinearRow where
  lower : Option ℚ
  upper : ℚ
  entries : List (Nat × ℚ)

/-- Minimise the cost of the columns that are 1, within all rows. -/
structure BinaryProgram where
  costs : List ℚ
  rows : List LinearRow

/-- The sum of the entries whose column is 1. -/
def weight (x : List Bool) (entries : List (Nat × ℚ)) : ℚ :=
  (entries.map fun entry => if x.getD entry.1 false then entry.2 else 0).sum

def LinearRow.Holds (row : LinearRow) (x : List Bool) : Prop :=
  (∀ bound ∈ row.lower, bound ≤ weight x row.entries) ∧ weight x row.entries ≤ row.upper

instance (row : LinearRow) (x : List Bool) : Decidable (row.Holds x) := by
  unfold LinearRow.Holds
  infer_instance

namespace BinaryProgram

structure Feasible (program : BinaryProgram) (x : List Bool) : Prop where
  length : x.length = program.costs.length
  rows : ∀ row ∈ program.rows, row.Holds x

instance (program : BinaryProgram) (x : List Bool) : Decidable (program.Feasible x) :=
  decidable_of_iff (x.length = program.costs.length ∧ ∀ row ∈ program.rows, row.Holds x)
    ⟨fun h => ⟨h.1, h.2⟩, fun h => ⟨h.length, h.rows⟩⟩

def objective (program : BinaryProgram) (x : List Bool) : ℚ :=
  weight x (program.costs.zipIdx.map Prod.swap)

structure Optimal (program : BinaryProgram) (x : List Bool) : Prop where
  feasible : program.Feasible x
  least : ∀ y, program.Feasible y → program.objective x ≤ program.objective y

/-! ## Trying all solutions -/

/-- The cheapest of all feasible solutions. -/
def exhaustive (program : BinaryProgram) : Option (List Bool) :=
  ((choices (program.costs.map fun _ => [false, true])).filter fun x =>
    decide (program.Feasible x)).argmin program.objective

variable {program : BinaryProgram} {x : List Bool}

theorem mem_candidates (h : program.Feasible x) :
    x ∈ (choices (program.costs.map fun _ => [false, true])).filter fun x =>
      decide (program.Feasible x) := by
  refine mem_filter.mpr ⟨mem_choices.mpr ?_, decide_eq_true h⟩
  refine forall₂_map_right_iff.mpr (forall₂_iff_get.mpr ⟨h.length, ?_⟩)
  intro i _ _
  cases x.get _ <;> simp

theorem exhaustive_optimal (h : program.exhaustive = some x) : program.Optimal x := by
  have hmem := argmin_mem (Option.mem_def.mpr h)
  refine ⟨of_decide_eq_true (mem_filter.mp hmem).2, fun y hy => ?_⟩
  exact le_of_mem_argmin (mem_candidates hy) (Option.mem_def.mpr h)

theorem exhaustive_eq_none (h : program.exhaustive = none) : ∀ x, ¬ program.Feasible x := by
  intro x hx
  have hmem := mem_candidates hx
  rw [argmin_eq_none.mp h] at hmem
  cases hmem

end BinaryProgram

/-! ## Rows in flat arrays -/

/-- The entries of all rows on end, and for each row its bounds and where it
ends. -/
structure RowBuffer where
  entries : List (Nat × ℚ)
  bounds : List (Option ℚ × ℚ × Nat)

namespace RowBuffer

def empty : RowBuffer := ⟨[], []⟩

def push (buffer : RowBuffer) (row : LinearRow) : RowBuffer where
  entries := buffer.entries ++ row.entries
  bounds := buffer.bounds ++ [(row.lower, row.upper, (buffer.entries ++ row.entries).length)]

/-- The rows that start at the end of the one before. -/
def cut (entries : List (Nat × ℚ)) : Nat → List (Option ℚ × ℚ × Nat) → List LinearRow
  | _, [] => []
  | start, (lower, upper, stop) :: rest =>
      ⟨lower, upper, (entries.drop start).take (stop - start)⟩ :: cut entries stop rest

def rowsOf (buffer : RowBuffer) : List LinearRow := cut buffer.entries 0 buffer.bounds

/-- The bounds of rows pushed after `start` entries. -/
def boundsFrom : Nat → List LinearRow → List (Option ℚ × ℚ × Nat)
  | _, [] => []
  | start, row :: rest =>
      (row.lower, row.upper, start + row.entries.length) ::
        boundsFrom (start + row.entries.length) rest

theorem foldl_push (rows : List LinearRow) (buffer : RowBuffer) :
    rows.foldl push buffer =
      ⟨buffer.entries ++ rows.flatMap (·.entries),
        buffer.bounds ++ boundsFrom buffer.entries.length rows⟩ := by
  induction rows generalizing buffer with
  | nil => simp [boundsFrom]
  | cons row rest ih => simp [ih, push, boundsFrom]

theorem cut_boundsFrom (rows : List LinearRow) (before : List (Nat × ℚ)) :
    cut (before ++ rows.flatMap (·.entries)) before.length (boundsFrom before.length rows) =
      rows := by
  induction rows generalizing before with
  | nil => rfl
  | cons row rest ih =>
    have hrest := ih (before ++ row.entries)
    rw [length_append, append_assoc] at hrest
    rw [boundsFrom, cut, flatMap_cons, hrest]
    simp

theorem rowsOf_foldl_push (rows : List LinearRow) : (rows.foldl push empty).rowsOf = rows := by
  rw [foldl_push, rowsOf]
  exact cut_boundsFrom rows []

end RowBuffer

/-! ## Columns that stand for items -/

section

variable {α : Type}

/-- The items whose column is 1. -/
def chosen : List α → List Bool → List α
  | item :: items, b :: x => if b then item :: chosen items x else chosen items x
  | _, _ => []

theorem chosen_sublist (items : List α) (x : List Bool) : (chosen items x).Sublist items := by
  induction items generalizing x with
  | nil => simp [chosen]
  | cons item items ih =>
    cases x with
    | nil => simp [chosen]
    | cons b x =>
      cases b with
      | false => exact (ih x).cons item
      | true => exact (ih x).cons_cons item

theorem exists_chosen {items chosenItems : List α} (h : chosenItems.Sublist items) :
    ∃ x : List Bool, x.length = items.length ∧ chosen items x = chosenItems := by
  induction h with
  | slnil => exact ⟨[], rfl, rfl⟩
  | cons item _ ih =>
    obtain ⟨x, hlength, hchosen⟩ := ih
    exact ⟨false :: x, by simp [hlength], by simpa [chosen] using hchosen⟩
  | cons_cons item _ ih =>
    obtain ⟨x, hlength, hchosen⟩ := ih
    exact ⟨true :: x, by simp [hlength], by simp [chosen, hchosen]⟩

def columnEntries (items : List α) (value : α → Option ℚ) (start : Nat) : List (Nat × ℚ) :=
  (items.zipIdx start).filterMap fun itemIndex =>
    (value itemIndex.1).map fun v => (itemIndex.2, v)

/-- The weight of a row is a sum over the chosen items. -/
theorem weight_columns (items : List α) (value : α → Option ℚ) (before x : List Bool)
    (hlength : x.length = items.length) :
    weight (before ++ x) (columnEntries items value before.length) =
      ((chosen items x).map fun item => (value item).getD 0).sum := by
  induction items generalizing before x with
  | nil => simp [columnEntries, weight, chosen]
  | cons item items ih =>
    cases x with
    | nil => cases hlength
    | cons b x =>
      have hrest := ih (before ++ [b]) x (Nat.succ_injective hlength)
      rw [length_append, length_singleton, append_assoc,
        singleton_append] at hrest
      have hsplit : columnEntries (item :: items) value before.length =
          ((value item).map fun v => (before.length, v)).toList ++
            columnEntries items value (before.length + 1) := by
        unfold columnEntries
        rw [zipIdx_cons, filterMap_cons]
        cases value item <;> rfl
      rw [hsplit, weight, map_append, sum_append]
      rw [weight] at hrest
      rw [hrest]
      cases hvalue : value item with
      | none | some v => cases b <;> simp [chosen, hvalue]

end

end Lib
