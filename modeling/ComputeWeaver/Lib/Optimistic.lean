/-
Lib.Optimistic — optimistic updates of one versioned cell.

Processes read the cell, compute a new content from what they read, and commit
only if the version is still the one they read. The cell keeps a log of the
commits in their order.

The rule is that every interleaving is SERIAL (`Coherent.serial`): the content
is what the committed updates give when they are applied one after the other in
the order of the log, each to the content the one before it left.
-/
import Mathlib.Logic.Relation
import ComputeWeaver.Lib.Calls

namespace Lib.Optimistic

variable {α ω : Type}

inductive Phase (α ω : Type) where
  | idle
  | holding (version : Int) (content : α)
  | committed (out : ω)
  | failed

structure Cell (α ω : Type) where
  version : Int
  content : α
  phase : Nat → Phase α ω
  log : List (Nat × ω)

def Cell.start (version : Int) (content : α) : Cell α ω := ⟨version, content, fun _ => .idle, []⟩

/-- `update i a` is what process `i` makes of a content `a`: a new content
and a result, or nothing. -/
inductive Step (update : Nat → α → Option (α × ω)) (s : Cell α ω) : Cell α ω → Prop
  | read (i : Nat) (hidle : s.phase i = .idle) :
      Step update s
        { s with phase := Function.update s.phase i (.holding s.version s.content) }
  | fail (i : Nat) (hopen : ∀ out, s.phase i ≠ .committed out) :
      Step update s { s with phase := Function.update s.phase i .failed }
  | commit (i : Nat) (content content' : α) (out : ω)
      (hholding : s.phase i = .holding s.version content)
      (hupdate : update i content = some (content', out)) :
      Step update s
        ⟨s.version + 1, content', Function.update s.phase i (.committed out), s.log ++ [(i, out)]⟩

/-- Any number of steps. -/
abbrev Steps (update : Nat → α → Option (α × ω)) : Cell α ω → Cell α ω → Prop :=
  Relation.ReflTransGen (Step update)

/-- The updates of a log lead from one content to the other. -/
def Serial (update : Nat → α → Option (α × ω)) : α → List (Nat × ω) → α → Prop
  | a, [], b => a = b
  | a, (i, out) :: rest, b => ∃ mid, update i a = some (mid, out) ∧ Serial update mid rest b

variable {update : Nat → α → Option (α × ω)}
  {a : α} {s s' : Cell α ω}

theorem Serial.snoc {b c : α} {log : List (Nat × ω)} {i : Nat} {out : ω}
    (h : Serial update a log b) (hupdate : update i b = some (c, out)) :
    Serial update a (log ++ [(i, out)]) c := by
  induction log generalizing a with
  | nil =>
    cases h
    exact ⟨c, hupdate, rfl⟩
  | cons entry rest ih =>
    obtain ⟨mid, hmid, hrest⟩ := h
    exact ⟨mid, hmid, ih hrest⟩

/-- What holds of every state the processes reach from a content `a`. -/
structure Coherent (update : Nat → α → Option (α × ω)) (a : α) (s : Cell α ω) : Prop where
  serial : Serial update a s.log s.content
  older : ∀ i version content, s.phase i = .holding version content → version ≤ s.version
  current : ∀ i content, s.phase i = .holding s.version content → content = s.content
  logged : ∀ i out, s.phase i = .committed out ↔ (i, out) ∈ s.log

theorem coherent_start (update : Nat → α → Option (α × ω)) (version : Int) (a : α) :
    Coherent update a (Cell.start version a) where
  serial := rfl
  older := by simp [Cell.start]
  current := by simp [Cell.start]
  logged := by simp [Cell.start]

theorem Coherent.step (h : Coherent update a s) (hstep : Step update s s') :
    Coherent update a s' := by
  cases hstep with
  | read i hidle =>
    refine ⟨h.serial, ?_, ?_, ?_⟩
    · intro k version content hk
      by_cases hki : k = i
      · subst hki
        cases (Function.update_self k _ s.phase).symm.trans hk
        exact Int.le_refl _
      · exact h.older k version content (phase_update_ne hk hki)
    · intro k content hk
      by_cases hki : k = i
      · subst hki
        cases (Function.update_self k _ s.phase).symm.trans hk
        rfl
      · exact h.current k content (phase_update_ne hk hki)
    · intro k out
      by_cases hki : k = i
      · subst hki
        simp [← h.logged, hidle]
      · simp [Function.update_of_ne hki, h.logged]
  | fail i hopen =>
    refine ⟨h.serial, ?_, ?_, ?_⟩
    · intro k version content hk
      exact h.older k version content (phase_of_update hk (by simp)).2
    · intro k content hk
      exact h.current k content (phase_of_update hk (by simp)).2
    · intro k out
      by_cases hki : k = i
      · subst hki
        simp [← h.logged, hopen]
      · simp [Function.update_of_ne hki, h.logged]
  | commit i content content' out hholding hupdate =>
    have hcurrent : content = s.content := h.current i content hholding
    -- whoever still holds a version holds an older one now
    have hother : ∀ k version held, Function.update s.phase i (.committed out) k =
        .holding version held → version ≤ s.version := by
      intro k version held hk
      exact h.older k version held (phase_of_update hk (by simp)).2
    refine ⟨h.serial.snoc (hcurrent ▸ hupdate), ?_, ?_, ?_⟩
    · intro k version held hk
      have hle := hother k version held hk
      show version ≤ s.version + 1
      omega
    · intro k held hk
      have hle := hother k (s.version + 1) held hk
      omega
    · intro k out'
      have hnew : ∀ out', (i, out') ∉ s.log := by
        intro out' hmem
        cases hholding.symm.trans ((h.logged i out').mpr hmem)
      by_cases hki : k = i
      · subst hki
        simp [hnew, eq_comm]
      · simp [h.logged, hki]

theorem Coherent.steps (h : Coherent update a s) (hsteps : Steps update s s') :
    Coherent update a s' := by
  induction hsteps with
  | refl => exact h
  | tail _ hstep ih => exact ih.step hstep

/-- The log only grows. -/
theorem log_isPrefix (hsteps : Steps update s s') : s.log <+: s'.log := by
  induction hsteps with
  | refl => exact List.prefix_rfl
  | tail _ hstep ih =>
    refine ih.trans ?_
    cases hstep with
    | read | fail => exact List.prefix_rfl
    | commit => exact List.prefix_append _ _

end Lib.Optimistic
