/-
Lib.Replay — changes that are made one at a time and may be made
again.

A batch of changes is applied in order; each says whether it was accepted, and
the first one that raises ends the batch with the changes before it in place.
If a change leaves a mark that later changes keep (`Marking`), and is refused
without effect where its mark is (`Settling`), then a batch that was cut off
anywhere can be applied again from the start (`applyAll_take`,
`applyAll_again`).
-/
import Mathlib.Data.List.Basic

namespace Lib

open List

universe u v w

variable {σ : Type u} {α : Type v} {ε : Type w}

/-- The outcome is what each change returned, or what the first one raised. -/
def applyAll (apply : σ → α → Except ε (Bool × σ)) : List α → σ → Except ε (List Bool) × σ
  | [], s => (.ok [], s)
  | a :: rest, s => match apply s a with
      | .error e => (.error e, s)
      | .ok (accepted, s') =>
          match applyAll apply rest s' with
          | (.error e, s'') => (.error e, s'')
          | (.ok flags, s'') => (.ok (accepted :: flags), s'')

variable {apply : σ → α → Except ε (Bool × σ)}
  {a : α} {batch' : List α} {flags : List Bool}

theorem applyAll_cons_eq_ok {rest : List α} {s s₁ : σ} :
    applyAll apply (a :: rest) s = (.ok flags, s₁) ↔
      ∃ accepted s' flags', apply s a = .ok (accepted, s') ∧
        applyAll apply rest s' = (.ok flags', s₁) ∧ flags = accepted :: flags' := by
  constructor
  · intro h
    rw [applyAll] at h
    split at h
    · cases h
    rename_i accepted s' ha
    split at h
    · cases h
    · rename_i flags' s'' hrest
      cases h
      exact ⟨accepted, s', flags', ha, hrest, rfl⟩
  · rintro ⟨accepted, s', flags', ha, hrest, rfl⟩
    rw [applyAll, ha]
    simp only [hrest]

theorem applyAll_append_eq_ok {pre post : List α} {s s₁ : σ} :
    applyAll apply (pre ++ post) s = (.ok flags, s₁) ↔
      ∃ s' before after, applyAll apply pre s = (.ok before, s') ∧
        applyAll apply post s' = (.ok after, s₁) ∧ flags = before ++ after := by
  induction pre generalizing s flags with
  | nil =>
    constructor
    · intro h
      exact ⟨s, [], flags, rfl, h, rfl⟩
    · rintro ⟨s', before, after, hpre, hpost, rfl⟩
      cases hpre
      exact hpost
  | cons a pre ih =>
    rw [cons_append, applyAll_cons_eq_ok]
    constructor
    · rintro ⟨accepted, s', flags', ha, hrest, rfl⟩
      obtain ⟨s'', before, after, hpre, hpost, rfl⟩ := ih.mp hrest
      exact ⟨s'', accepted :: before, after,
        applyAll_cons_eq_ok.mpr ⟨accepted, s', before, ha, hpre, rfl⟩, hpost, rfl⟩
    · rintro ⟨s'', before, after, hpre, hpost, rfl⟩
      obtain ⟨accepted, s', before', ha, hrest, rfl⟩ := applyAll_cons_eq_ok.mp hpre
      exact ⟨accepted, s', before' ++ after, ha, ih.mpr ⟨s'', before', after, hrest, hpost, rfl⟩,
        rfl⟩

/-- A change of the batch leaves a mark, which later changes keep. -/
structure Marking (apply : σ → α → Except ε (Bool × σ)) (mark : σ → α → Prop)
    (batch : List α) : Prop where
  marks : ∀ a ∈ batch, ∀ s accepted s', apply s a = .ok (accepted, s') → mark s' a
  keeps : ∀ s a b accepted s', mark s a → apply s b = .ok (accepted, s') → mark s' a

/-- A change with the mark is refused without effect. -/
structure Settling (apply : σ → α → Except ε (Bool × σ)) (settled : σ → α → Prop)
    (batch : List α) : Prop extends Marking apply settled batch where
  again : ∀ s a, settled s a → apply s a = .ok (false, s)

variable {mark settled : σ → α → Prop} {batch : List α} {s s₁ : σ} {flags : List Bool}

theorem Marking.mono (h : Marking apply mark batch) (hsub : batch' ⊆ batch) :
    Marking apply mark batch' :=
  ⟨fun a ha => h.marks a (hsub ha), h.keeps⟩

theorem Settling.mono (h : Settling apply settled batch) (hsub : batch' ⊆ batch) :
    Settling apply settled batch' :=
  ⟨h.toMarking.mono hsub, h.again⟩

/-- A mark stays, also where a later change raises. -/
theorem Marking.keepsAll (h : Marking apply mark batch) (ha : mark s a) :
    mark (applyAll apply batch s).2 a := by
  induction batch generalizing s with
  | nil => exact ha
  | cons b rest ih =>
    rw [applyAll]
    cases hb : apply s b with
    | error e => exact ha
    | ok out =>
      obtain ⟨accepted, s'⟩ := out
      have hrest := ih (h.mono (subset_cons_self b rest)) (h.keeps s a b accepted s' ha hb)
      simp only
      cases hrun : applyAll apply rest s' with
      | mk outcome s'' =>
        rw [hrun] at hrest
        cases outcome <;> exact hrest

theorem Marking.marksAll (h : Marking apply mark batch)
    (hrun : applyAll apply batch s = (.ok flags, s₁)) : ∀ a ∈ batch, mark s₁ a := by
  induction batch generalizing s flags with
  | nil => simp
  | cons b rest ih =>
    obtain ⟨accepted, s', flags', hb, hrest, _⟩ := applyAll_cons_eq_ok.mp hrun
    have hmono := h.mono (subset_cons_self b rest)
    refine forall_mem_cons.mpr ⟨?_, ih hmono hrest⟩
    have hkept := hmono.keepsAll (h.marks b mem_cons_self s accepted s' hb)
    rwa [hrest] at hkept

theorem Marking.comes (h : Marking apply mark batch) (ha : mark s a) (hmem : a ∈ batch)
    (hrun : applyAll apply batch s = (.ok flags, s₁)) :
    ∃ s' accepted s'', mark s' a ∧ apply s' a = .ok (accepted, s'') := by
  induction batch generalizing s flags with
  | nil => cases hmem
  | cons b rest ih =>
    obtain ⟨accepted, s', flags', hb, hrest, _⟩ := applyAll_cons_eq_ok.mp hrun
    rcases mem_cons.mp hmem with rfl | hmem
    · exact ⟨s, accepted, s', ha, hb⟩
    · exact ih (h.mono (subset_cons_self b rest)) (h.keeps s a b accepted s' ha hb) hmem hrest

theorem Settling.refused (h : Settling apply settled batch) (hall : ∀ a ∈ batch, settled s a) :
    applyAll apply batch s = (.ok (batch.map fun _ => false), s) := by
  induction batch with
  | nil => rfl
  | cons b rest ih =>
    obtain ⟨hb, hrest⟩ := forall_mem_cons.mp hall
    refine applyAll_cons_eq_ok.mpr ⟨false, s, _, h.again s b hb, ?_, rfl⟩
    exact ih (h.mono (subset_cons_self b rest)) hrest

/-- **Applying a batch again** changes nothing. -/
theorem Settling.applyAll_again (h : Settling apply settled batch)
    (hrun : applyAll apply batch s = (.ok flags, s₁)) :
    applyAll apply batch s₁ = (.ok (batch.map fun _ => false), s₁) :=
  h.refused (h.marksAll hrun)

/-- **After an interruption** anywhere, the whole batch gives what it gives
without one. -/
theorem Settling.applyAll_take (h : Settling apply settled batch)
    (hrun : applyAll apply batch s = (.ok flags, s₁)) (k : Nat) :
    ∃ flags', applyAll apply batch (applyAll apply (batch.take k) s).2 = (.ok flags', s₁) := by
  have hsplit := hrun
  rw [← take_append_drop k batch] at hsplit
  obtain ⟨s', before, after, hpre, hpost, _⟩ := applyAll_append_eq_ok.mp hsplit
  have hrefused := (h.mono (take_subset k batch)).applyAll_again hpre
  rw [hpre]
  refine ⟨(batch.take k).map (fun _ => false) ++ after, ?_⟩
  have hwhole := applyAll_append_eq_ok.mpr ⟨s', _, after, hrefused, hpost, rfl⟩
  rwa [take_append_drop] at hwhole

end Lib
