/-
Lib.Calls — concurrent calls of an execute-once service.

Each call is at one point of its code. A step of a system moves one call,
`Function.update phase i p`; the lemmas say what is known of a call's
phase before such a move from its phase after it. They hold for every type of
phases, and for calls named in any way.
-/
import Mathlib.Logic.Function.Basic
import ComputeWeaver.Lib.Python

namespace Lib

open Function

/-- How far a call has come. `completed` is a return after the call's own
operation succeeded, `replayed` a return of a result recorded before. -/
inductive CallPhase (ρ : Type) where
  | idle
  | running
  | completed (result : ρ)
  | replayed (result : ρ)
  | raised (error : PyError)

variable {ι P : Type} [DecidableEq ι] {phase : ι → P} {i k : ι} {p q : P}

/-- The other calls stay where they are. -/
theorem others_update (k : ι) (hk : k ≠ i) : update phase i p k = phase k :=
  update_of_ne hk p phase

/-- Where call `i` alone has come in, keys stay unique if its own was free. -/
theorem unique_of_others {A : Type} (key : ι → A) {S T : ι → Prop}
    (hsame : ∀ k, k ≠ i → T k → S k) (hunique : ∀ k l, S k → S l → key k = key l → k = l)
    (hother : T i → ∀ k, S k → key k ≠ key i) (k l : ι) (hk : T k) (hl : T l)
    (heq : key k = key l) : k = l := by
  by_cases hki : k = i
  · by_cases hli : l = i
    · rw [hki, hli]
    · subst hki
      exact absurd heq.symm (hother hk l (hsame l hli hl))
  · by_cases hli : l = i
    · subst hli
      exact absurd heq (hother hl k (hsame k hki hk))
    · exact hunique k l (hsame k hki hk) (hsame l hli hl) heq

section

variable (h : Function.update phase i p k = q)
include h

theorem phase_update_ne (hne : k ≠ i) : phase k = q := by
  rwa [update_of_ne hne] at h

/-- A call found in a phase other than the one call `i` moved to is not call
`i`, and was in that phase before. -/
theorem phase_of_update (hp : p ≠ q) : k ≠ i ∧ phase k = q := by
  by_cases hk : k = i
  · subst hk
    rw [update_self] at h
    exact absurd h hp
  · exact ⟨hk, phase_update_ne h hk⟩

/-- A phase after call `i` has moved is its new one, or the one of another
call from before. -/
theorem phase_update_cases : k = i ∧ p = q ∨ k ≠ i ∧ phase k = q := by
  by_cases hk : k = i
  · subst hk
    exact .inl ⟨rfl, by rwa [update_self] at h⟩
  · exact .inr ⟨hk, phase_update_ne h hk⟩

end

end Lib
