/-
Lib.Tally — sums over the entries of a dictionary.

A table whose rows each contribute an amount, and a total kept beside it: the
lemmas say how the sum of the contributions changes when a row is added or
replaced.
-/
import Mathlib.Algebra.Order.BigOperators.Group.List
import ComputeWeaver.Lib.Dict

namespace Lib

open List

variable {K V M : Type}

def Dict.tally [AddCommMonoid M] (f : K → V → M) (d : Dict K V) : M :=
  (d.entries.map fun kv => f kv.1 kv.2).sum

namespace Dict

section

variable [AddCommMonoid M] {f : K → V → M} {d : Dict K V} {k : K}

variable [DecidableEq K]

theorem tally_set_of_none (h : d.get? k = none) (v : V) :
    (d.set k v).tally f = d.tally f + f k v := by
  rw [tally, entries_set_of_none h, map_append, sum_append]
  simp [tally]

/-- Replacing a row adds the new contribution and takes the old one away. -/
theorem tally_set_of_some {v w : V} (h : d.get? k = some w) :
    (d.set k v).tally f + f k w = d.tally f + f k v := by
  have hentries : ∀ l : List (K × V), assocGet l k = some w →
      ((assocSet l k v).map fun kv => f kv.1 kv.2).sum + f k w =
        (l.map fun kv => f kv.1 kv.2).sum + f k v := by
    intro l
    induction l with
    | nil => exact fun hl => by cases hl
    | cons kv rest ih =>
      obtain ⟨k', w'⟩ := kv
      intro hl
      rw [assocGet] at hl
      rw [assocSet]
      by_cases hk : k' = k
      · subst hk
        rw [if_pos rfl] at hl ⊢
        cases hl
        simp only [map_cons, sum_cons]
        rw [add_comm (f k' v), add_assoc, add_comm (f k' v), ← add_assoc, add_comm (f k' w)]
      · rw [if_neg hk] at hl ⊢
        simp only [map_cons, sum_cons]
        rw [add_assoc, ih hl, add_assoc]
  exact hentries d.entries h

/-- Rows that contribute nothing do not count. -/
theorem tally_set_of_zero {v : V} (hnew : f k v = 0)
    (hold : ∀ w, d.get? k = some w → f k w = 0) : (d.set k v).tally f = d.tally f := by
  cases hget : d.get? k with
  | none => rw [tally_set_of_none hget, hnew, add_zero]
  | some w =>
    have hsum := tally_set_of_some (f := f) (v := v) hget
    rwa [hnew, hold w hget, add_zero, add_zero] at hsum

theorem tally_eq_zero (h : ∀ k v, d.get? k = some v → f k v = 0) : d.tally f = 0 := by
  refine sum_eq_zero fun amount hamount => ?_
  obtain ⟨⟨k, v⟩, hmem, rfl⟩ := mem_map.mp hamount
  exact h k v (mem_entries_iff.mp hmem)

end

/-- One row contributes at most the whole. -/
theorem le_tally [DecidableEq K] [AddCommMonoid M] [PartialOrder M] [IsOrderedAddMonoid M]
    {f : K → V → M} {d : Dict K V} (hnonneg : ∀ k v, d.get? k = some v → 0 ≤ f k v) {k : K} {v : V}
    (h : d.get? k = some v) : f k v ≤ d.tally f := by
  refine single_le_sum ?_ _ (mem_map.mpr ⟨(k, v), mem_entries_iff.mpr h, rfl⟩)
  intro amount hamount
  obtain ⟨⟨k', v'⟩, hmem, rfl⟩ := mem_map.mp hamount
  exact hnonneg k' v' (mem_entries_iff.mp hmem)

end Dict

end Lib
