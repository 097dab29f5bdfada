/-
Lib.Run — runs of a deterministic state machine.

A run feeds a list of inputs to a step function. An interleaving of several
processes is such a run too: the inputs then say which process moves next.
`run_invariant` is the induction rule every safety result uses, and
`guarded_invariant` the rule for runs whose every step meets a condition.
`outputs` is what a machine answers along a run.

A statement about EVERY state a run passes through needs no rule of its own:
each prefix of a run is a run (`guarded_append`).
-/
import Mathlib.Data.List.Basic

namespace Lib

open List

universe u v w

variable {σ : Type u} {ι : Type v}

/-- The state after a list of inputs. -/
def run (step : σ → ι → σ) (s : σ) (inputs : List ι) : σ := inputs.foldl step s

variable {step : σ → ι → σ}

@[simp] theorem run_nil (s : σ) : run step s [] = s := rfl

@[simp] theorem run_cons (s : σ) (i : ι) (rest : List ι) :
    run step s (i :: rest) = run step (step s i) rest := rfl

theorem run_append (s : σ) (pre post : List ι) :
    run step s (pre ++ post) = run step (run step s pre) post := by
  simp [run, foldl_append]

variable {P : σ → Prop} {inputs : List ι} {s : σ}

/-- What holds at the start and is kept by every step holds after every run. -/
theorem run_invariant (hstep : ∀ s i, P s → P (step s i)) :
    ∀ (inputs : List ι) (s : σ), P s → P (run step s inputs)
  | [], _, h => h
  | i :: rest, s, h => run_invariant hstep rest (step s i) (hstep s i h)

/-- Every step of the run meets the condition `C` in the state before it. -/
def Guarded (step : σ → ι → σ) (C : σ → ι → Prop) : σ → List ι → Prop
  | _, [] => True
  | s, i :: rest => C s i ∧ Guarded step C (step s i) rest

variable {C : σ → ι → Prop} {keep : ι → Bool}

/-- A guard that can be evaluated can be evaluated along a run. -/
instance guardedDecidable [∀ s i, Decidable (C s i)] :
    (s : σ) → (inputs : List ι) → Decidable (Guarded step C s inputs)
  | _, [] => isTrue trivial
  | s, i :: rest =>
      @instDecidableAnd _ _ (inferInstanceAs (Decidable (C s i))) (guardedDecidable (step s i) rest)

/-- So can one about what a lookup finds. -/
instance decidableForallSome {α : Type u} {P : α → Prop} [DecidablePred P] :
    (o : Option α) → Decidable (∀ a, o = some a → P a)
  | none => isTrue (by simp)
  | some a => decidable_of_iff (P a) (by simp)

theorem guarded_append (s : σ) (pre post : List ι) :
    Guarded step C s (pre ++ post) ↔
      Guarded step C s pre ∧ Guarded step C (run step s pre) post := by
  induction pre generalizing s with
  | nil => simp [Guarded]
  | cons i rest ih => simp [Guarded, ih, and_assoc]

theorem guarded_mem (h : Guarded step C s inputs) :
    Guarded step (fun s i => i ∈ inputs ∧ C s i) s inputs := by
  have hsub : ∀ (suffix : List ι) (s : σ), (∀ i ∈ suffix, i ∈ inputs) →
      Guarded step C s suffix → Guarded step (fun s i => i ∈ inputs ∧ C s i) s suffix := by
    intro suffix
    induction suffix with
    | nil => exact fun _ _ _ => trivial
    | cons i rest ih =>
      intro s hmem hg
      exact ⟨⟨hmem i mem_cons_self, hg.1⟩,
        ih _ (fun i' hi' => hmem i' (mem_cons_of_mem _ hi')) hg.2⟩
  exact hsub inputs s (fun _ hi => hi) h

theorem guarded_and {D : σ → ι → Prop} (hC : Guarded step C s inputs)
    (hD : Guarded step D s inputs) : Guarded step (fun s i => C s i ∧ D s i) s inputs := by
  induction inputs generalizing s with
  | nil => trivial
  | cons i rest ih => exact ⟨⟨hC.1, hD.1⟩, ih hC.2 hD.2⟩

/-- What holds at the start and is kept by every step that meets the
condition holds after every guarded run. -/
theorem guarded_invariant (hstep : ∀ s i, C s i → P s → P (step s i)) :
    ∀ (inputs : List ι) (s : σ), Guarded step C s inputs → P s → P (run step s inputs)
  | [], _, _, h => h
  | i :: rest, s, hg, h =>
      guarded_invariant hstep rest (step s i) hg.2 (hstep s i hg.1 h)

/-- Where the condition keeps an invariant `I` that gives `Q`, and a step that
does not meet it loses `Q`, the guarded runs are those that have `Q` all along. -/
theorem guarded_iff_of_invariant {I Q : σ → Prop} (hstep : ∀ s i, I s → C s i → I (step s i))
    (hholds : ∀ s, I s → Q s) (hexact : ∀ s i, I s → Q (step s i) → C s i) :
    ∀ (inputs : List ι) (s : σ), I s →
      ((∀ pre, pre <+: inputs → Q (run step s pre)) ↔ Guarded step C s inputs)
  | [], s, h => by simp [Guarded, hholds s h]
  | i :: rest, s, h => by
    constructor
    · intro hall
      have hi : C s i := hexact s i h (hall [i] (by simp))
      refine ⟨hi, (guarded_iff_of_invariant hstep hholds hexact rest (step s i)
        (hstep s i h hi)).mp fun pre hpre => ?_⟩
      exact hall (i :: pre) (by simpa using hpre)
    · rintro ⟨hi, hrest⟩ pre hpre
      cases pre with
      | nil => exact hholds s h
      | cons j pre =>
        obtain ⟨rfl, htail⟩ := cons_prefix_cons.mp hpre
        exact (guarded_iff_of_invariant hstep hholds hexact rest (step s j)
          (hstep s j h hi)).mpr hrest pre htail

/-- Where the condition says exactly when a step keeps `P`, the guarded runs are
those that have `P` all along. -/
theorem guarded_iff (hstep : ∀ s i, P s → (P (step s i) ↔ C s i)) (inputs : List ι) (s : σ)
    (h : P s) : (∀ pre, pre <+: inputs → P (run step s pre)) ↔ Guarded step C s inputs :=
  guarded_iff_of_invariant (fun s i h => (hstep s i h).mpr) (fun _ h => h)
    (fun s i h => (hstep s i h).mp) inputs s h

/-- A view of the state that some inputs act on by themselves and the others
leave alone is that of a run of the former only. -/
theorem guarded_view {τ : Type w} {view : σ → τ} {viewStep : τ → ι → τ}
    (hkept : ∀ s i, C s i → keep i = true → view (step s i) = viewStep (view s) i)
    (hother : ∀ s i, C s i → keep i = false → view (step s i) = view s) :
    ∀ (inputs : List ι) (s : σ), Guarded step C s inputs →
      view (run step s inputs) = run viewStep (view s) (inputs.filter keep)
  | [], _, _ => rfl
  | i :: rest, s, hg => by
    have hrest := guarded_view hkept hother rest (step s i) hg.2
    rw [run_cons, hrest]
    cases hi : keep i with
    | true => rw [filter_cons_of_pos hi, run_cons, hkept s i hg.1 hi]
    | false => rw [filter_cons_of_neg (by simp [hi]), hother s i hg.1 hi]

/-! ## Machines with outputs -/

section

variable {τ : Type w} {κ ο : Type v} {step : σ → ι → ο × σ} {step' : τ → κ → ο × τ}

/-- What a machine answers to a list of inputs. -/
def outputs (step : σ → ι → ο × σ) : σ → List ι → List ο
  | _, [] => []
  | s, i :: rest => (step s i).1 :: outputs step (step s i).2 rest

/-- Two machines that a relation keeps together answer the same. The relation
may speak of the inputs to come. -/
theorem outputs_eq_of_simulation {f : ι → κ} {R : List ι → σ → τ → Prop}
    (hstep : ∀ i rest s t, R (i :: rest) s t →
      (step s i).1 = (step' t (f i)).1 ∧ R rest (step s i).2 (step' t (f i)).2) :
    ∀ (inputs : List ι) (s : σ) (t : τ), R inputs s t →
      outputs step s inputs = outputs step' t (inputs.map f)
  | [], _, _, _ => rfl
  | i :: rest, s, t, h => by
      obtain ⟨hout, hrest⟩ := hstep i rest s t h
      rw [outputs, map_cons, outputs, hout,
        outputs_eq_of_simulation hstep rest _ _ hrest]

/-- What the machine answers to the inputs that are kept. -/
def keptOutputs (step : σ → ι → ο × σ) (keep : ι → Bool) : σ → List ι → List ο
  | _, [] => []
  | s, i :: rest =>
      if keep i then (step s i).1 :: keptOutputs step keep (step s i).2 rest
      else keptOutputs step keep (step s i).2 rest

/-- Where kept inputs answer the same in related states and the others do not
lead out of the relation, the kept answers are those to the kept inputs alone. -/
theorem keptOutputs_eq {R : σ → σ → Prop}
    (hkept : ∀ s t i, R s t → C s i → keep i = true →
      (step s i).1 = (step t i).1 ∧ R (step s i).2 (step t i).2)
    (hother : ∀ s t i, R s t → C s i → keep i = false → R (step s i).2 t) :
    ∀ (inputs : List ι) (s t : σ), R s t → Guarded (fun s i => (step s i).2) C s inputs →
      keptOutputs step keep s inputs = outputs step t (inputs.filter keep) ∧
        R (run (fun s i => (step s i).2) s inputs)
          (run (fun s i => (step s i).2) t (inputs.filter keep))
  | [], _, _, h, _ => ⟨rfl, h⟩
  | i :: rest, s, t, h, hg => by
    cases hi : keep i with
    | true =>
      obtain ⟨hout, hnext⟩ := hkept s t i h hg.1 hi
      obtain ⟨hrest, hend⟩ := keptOutputs_eq hkept hother rest _ _ hnext hg.2
      rw [filter_cons_of_pos hi, keptOutputs, if_pos hi, outputs, hout, hrest]
      exact ⟨rfl, hend⟩
    | false =>
      have hnext := hother s t i h hg.1 hi
      obtain ⟨hrest, hend⟩ := keptOutputs_eq hkept hother rest _ _ hnext hg.2
      rw [filter_cons_of_neg (by simp [hi]), keptOutputs, if_neg (by simp [hi]), hrest]
      exact ⟨rfl, hend⟩

end

end Lib
