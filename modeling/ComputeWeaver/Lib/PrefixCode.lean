/-
Lib.PrefixCode — texts that can be read back without knowing
where they end.

A prefix code gives every value a text such that the value and the rest can be
told from any text that begins with it. Codes of the parts of a value, put one
after the other, are a code of the whole; so is a list of codes that a
terminator ends.
-/
import Mathlib.Data.List.Basic
import Mathlib.Logic.Function.Basic

namespace Lib

open List

variable {α β γ : Type}

/-- Whatever follows, the text of a value tells the value and where it
ends. -/
def PrefixCode (f : α → List γ) : Prop :=
  ∀ a b r s, f a ++ r = f b ++ s → a = b ∧ r = s

namespace PrefixCode

variable {f : α → List γ} {g : β → List γ}

theorem of_read (read : List γ → Option (α × List γ))
    (h : ∀ a r, read (f a ++ r) = some (a, r)) : PrefixCode f := by
  intro a b r s hab
  have hread : some (a, r) = some (b, s) := by rw [← h a r, ← h b s, hab]
  cases hread
  exact ⟨rfl, rfl⟩

/-- Texts of one length are a code if they are distinct. -/
theorem of_length (hlength : ∀ a b, (f a).length = (f b).length)
    (hinj : Function.Injective f) : PrefixCode f := by
  intro a b r s hab
  obtain ⟨hf, hrest⟩ := append_inj hab (hlength a b)
  exact ⟨hinj hf, hrest⟩

theorem append (hf : PrefixCode f) (hg : PrefixCode g) :
    PrefixCode fun p : α × β => f p.1 ++ g p.2 := by
  intro a b r s hab
  simp only [append_assoc] at hab
  obtain ⟨h₁, hrest⟩ := hf _ _ _ _ hab
  obtain ⟨h₂, hrest⟩ := hg _ _ _ _ hrest
  exact ⟨Prod.ext h₁ h₂, hrest⟩

/-- A fixed text in front. -/
theorem after (h : PrefixCode f) (w : List γ) : PrefixCode fun a => w ++ f a := by
  intro a b r s hab
  simp only [append_assoc] at hab
  exact h a b r s (append_cancel_left hab)

/-- A list of codes, none of which begins with the terminator. -/
theorem flatMap (h : PrefixCode f) {stop : γ} (hstop : ∀ a, ∃ x xs, f a = x :: xs ∧ x ≠ stop) :
    PrefixCode fun l : List α => l.flatMap f ++ [stop] := by
  intro l
  induction l with
  | nil =>
    intro m r s hlm
    cases m with
    | nil =>
      simp only [flatMap_nil, nil_append, cons_append, List.cons.injEq,
        true_and] at hlm
      exact ⟨rfl, hlm⟩
    | cons b m =>
      obtain ⟨x, xs, hx, hne⟩ := hstop b
      simp only [flatMap_nil, flatMap_cons, hx, nil_append, cons_append,
        List.cons.injEq] at hlm
      exact absurd hlm.1.symm hne
  | cons a l ih =>
    intro m r s hlm
    cases m with
    | nil =>
      obtain ⟨x, xs, hx, hne⟩ := hstop a
      simp only [flatMap_nil, flatMap_cons, hx, nil_append, cons_append,
        List.cons.injEq] at hlm
      exact absurd hlm.1 hne
    | cons b m =>
      simp only [flatMap_cons, append_assoc] at hlm
      obtain ⟨rfl, htail⟩ := h a b _ _ hlm
      obtain ⟨rfl, hrest⟩ := ih m r s (by rwa [append_assoc, append_assoc])
      exact ⟨rfl, hrest⟩

end PrefixCode

end Lib
