/-
Lib.Versioned — a table of current items and a table of all
their versions.

Each key has at most one current item, which carries a version number; the
second table has a row for every version a key ever had, under an address that
names key and number. `Versioned` says that the two fit: the versions of a key
are exactly `1 … n`, and the current item is version `n`. Writing an item with
the next number to both tables keeps that (`Versioned.set`).
-/
import Mathlib.Order.Basic
import ComputeWeaver.Lib.Dict

namespace Lib

open Dict List

/-- The numbers `1 … n`. -/
def upTo (n : Int) : List Int := (List.range n.toNat).map fun i : Nat => (i : Int) + 1

variable {n : Int}

theorem mem_upTo {version : Int} : version ∈ upTo n ↔ 1 ≤ version ∧ version ≤ n := by
  simp only [upTo, mem_map, mem_range]
  constructor
  · rintro ⟨i, hi, rfl⟩
    omega
  · rintro ⟨hlow, hhigh⟩
    exact ⟨(version - 1).toNat, by omega, by omega⟩

theorem upTo_strictlyIncreasing (n : Int) : (upTo n).Pairwise (· < ·) := by
  rw [upTo, pairwise_map]
  refine pairwise_lt_range.imp ?_
  intro a b hab
  omega

theorem upTo_succ (h : 0 ≤ n) : upTo (n + 1) = upTo n ++ [n + 1] := by
  have hnat : (n + 1).toNat = n.toNat + 1 := by omega
  simp [upTo, hnat, range_succ, Int.toNat_of_nonneg h]

section

variable {K K' A B : Type} [DecidableEq K] [DecidableEq K']

/-- The number of a key's current version, 0 if it has none. -/
def lastVersion (version : A → Int) (items : Dict K A) (k : K) : Int :=
  ((items.get? k).map version).getD 0

variable {version : A → Int} {items : Dict K A} {k : K}

theorem lastVersion_of_get {a : A} (h : items.get? k = some a) :
    lastVersion version items k = version a := by
  simp [lastVersion, h]

theorem lastVersion_of_none (h : items.get? k = none) : lastVersion version items k = 0 := by
  simp [lastVersion, h]

theorem lastVersion_set (version : A → Int) (items : Dict K A) (k k' : K) (a : A) :
    lastVersion version (items.set k a) k' =
      if k = k' then version a else lastVersion version items k' := by
  simp only [lastVersion, get?_set]
  split <;> simp

/-- `address` names the row of a version, `row` is what is kept of an item
there. -/
structure Versioned (address : K → Int → K') (version : A → Int) (row : A → B)
    (items : Dict K A) (versions : Dict K' B) : Prop where
  positive : ∀ k a, items.get? k = some a → 1 ≤ version a
  current : ∀ k a, items.get? k = some a → versions.get? (address k (version a)) = some (row a)
  versions : ∀ k v, (∃ b, versions.get? (address k v) = some b) ↔
    1 ≤ v ∧ v ≤ lastVersion version items k

namespace Versioned

variable {address : K → Int → K'} {version : A → Int} {row : A → B} {items : Dict K A}
  {versions : Dict K' B}

theorem empty (address : K → Int → K') (version : A → Int) (row : A → B) :
    Versioned address version row empty empty where
  positive := by simp
  current := by simp
  versions := by
    intro k v
    simp only [lastVersion, get?_empty, reduceCtorEq, exists_false, Option.map_none,
      Option.getD_none, false_iff]
    omega

section

variable (h : Versioned address version row items versions)
include h

theorem lastVersion_nonneg (k : K) : 0 ≤ lastVersion version items k := by
  cases hget : items.get? k with
  | none => simp [lastVersion_of_none hget]
  | some a =>
    have hpositive := h.positive k a hget
    rw [lastVersion_of_get hget]
    omega

theorem no_next (k : K) : versions.get? (address k (lastVersion version items k + 1)) = none := by
  by_contra hsome
  obtain ⟨b, hb⟩ := Option.ne_none_iff_exists'.mp hsome
  have hbound := ((h.versions k _).mp ⟨b, hb⟩).2
  omega

variable {k : K}

theorem no_item (hnone : versions.get? (address k 1) = none) : items.get? k = none := by
  cases hget : items.get? k with
  | none => rfl
  | some a =>
    have hpositive := h.positive k a hget
    rw [← show lastVersion version items k = version a from lastVersion_of_get hget] at hpositive
    obtain ⟨b, hb⟩ := (h.versions k 1).mpr ⟨Int.le_refl 1, hpositive⟩
    cases hnone.symm.trans hb

theorem set (haddress : ∀ k v k' v', address k v = address k' v' → k = k' ∧ v = v') {a : A}
    (hversion : version a = lastVersion version items k + 1) :
    Versioned address version row (items.set k a)
      (versions.set (address k (version a)) (row a)) where
  positive := by
    intro k' a' hget
    rw [get?_set] at hget
    split at hget
    · cases hget
      have hlast := h.lastVersion_nonneg k
      omega
    · exact h.positive k' a' hget
  current := by
    intro k' a' hget
    rw [get?_set] at hget
    split at hget
    · rename_i hk
      cases hget
      rw [hk, get?_set_self]
    rename_i hk
    rw [get?_set_ne]
    · exact h.current k' a' hget
    · intro heq
      exact hk (haddress _ _ _ _ heq).1
  versions := by
    intro k' v
    rw [lastVersion_set]
    have hold := h.versions k' v
    by_cases hk : k = k'
    · subst hk
      have hlast := h.lastVersion_nonneg k
      rw [if_pos rfl]
      by_cases hv : version a = v
      · rw [hv, get?_set_self]
        simp only [Option.some.injEq, exists_eq', true_iff]
        omega
      · rw [get?_set_ne _ _ fun heq => hv (haddress _ _ _ _ heq).2, hold]
        omega
    · rw [if_neg hk, ← hold, get?_set_ne _ _ fun heq => hk (haddress _ _ _ _ heq).1]

end

end Versioned

end

end Lib
