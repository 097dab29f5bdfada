/-
Lib.Locks — exclusive locks that are held until their holder
ends.

The holders are numbered. A holder takes the lock of one key at a time, if it
is available, and gives all of them back at once when it ends. Either way the
locks of everyone else stay where they are: `KeepsOthers` is all that a proof
about the other holders needs.
-/
import Mathlib.Logic.Function.Basic

namespace Lib

variable {K : Type}

/-- Who holds the lock of each key. -/
abbrev Locks (K : Type) : Type := K → Option Nat

namespace Locks

def none : Locks K := fun _ => .none

/-- Nobody else holds the lock. -/
def available (locks : Locks K) (k : K) (i : Nat) : Bool :=
  locks k = .none || locks k = some i

def acquire [DecidableEq K] (locks : Locks K) (k : K) (i : Nat) : Locks K :=
  Function.update locks k (some i)

def release (locks : Locks K) (i : Nat) : Locks K :=
  fun k => if locks k = some i then .none else locks k

/-- No lock of a holder other than `i` is lost. -/
def KeepsOthers (i : Nat) (locks locks' : Locks K) : Prop :=
  ∀ k j, j ≠ i → locks k = some j → locks' k = some j

theorem KeepsOthers.refl (i : Nat) (locks : Locks K) : KeepsOthers i locks locks :=
  fun _ _ _ h => h

@[simp] theorem acquire_self [DecidableEq K] (locks : Locks K) (k : K) (i : Nat) :
    locks.acquire k i k = some i := by simp [acquire]

variable {locks : Locks K} {k k' : K} {i : Nat}

/-- A holder that takes one more lock keeps those it has. -/
theorem acquire_of_held [DecidableEq K] (h : locks k' = some i) :
    locks.acquire k i k' = some i := by
  by_cases hk : k' = k
  · rw [hk, acquire_self]
  · simp [acquire, hk, h]

theorem keepsOthers_acquire [DecidableEq K] (h : locks.available k i) :
    KeepsOthers i locks (locks.acquire k i) := by
  intro k' j hj hheld
  by_cases hk : k' = k
  · subst hk
    simp only [available, hheld, reduceCtorEq, decide_false, Bool.false_or, decide_eq_true_eq,
      Option.some.injEq] at h
    exact absurd h hj
  · simp [acquire, hk, hheld]

theorem keepsOthers_release (locks : Locks K) (i : Nat) :
    KeepsOthers i locks (locks.release i) := by
  intro k j hj hheld
  rw [release, hheld, if_neg]
  intro heq
  exact hj (Option.some.inj heq)

theorem ne_of_held {j : Nat} (hi : locks k = some i) (hj : locks k' = some j) (hij : j ≠ i) :
    k ≠ k' := by
  rintro rfl
  exact hij (Option.some.inj (hj.symm.trans hi))

end Locks

end Lib
