/-
Lib.BranchBound — depth-first branch and bound with a clock.

A `Problem` is a sequence of decisions: each has its options in order, what
taking an option does to a state (`none` when it does not fit), and a cost.
`search` walks the decision tree depth first, drops a branch whose running cost
is no better than the best leaf so far, and gives up on a node when the clock
has expired there.

Two results. Whatever the clock does, the search only ever records leaves
(`search_best_mem`). When the clock never expired and no option has a negative
cost, it records the FIRST leaf of minimum cost in the order of the tree
(`search_best`): pruning with `≥` keeps the earlier of two equal leaves and
never hides a better one.
-/
import Mathlib.Algebra.Group.Hom.Defs
import Mathlib.Data.List.MinMax
import Mathlib.Algebra.Order.Monoid.Defs
import ComputeWeaver.Lib.Itertools

namespace Lib.BranchBound

open List

/-- A sequence of decisions `J` with options `κ`, taken in a state `σ`. -/
structure Problem (J κ σ γ : Type) where
  options : J → List κ
  place : J → κ → σ → Option σ
  cost : J → κ → γ

variable {J κ σ γ : Type} (P : Problem J κ σ γ) {l : List (γ × List κ)} {b : γ × List κ}
  {js : List J}

/-! ## The decision tree -/

/-- The complete paths from a state, in the order of the tree. -/
def leaves : List J → σ → List (List κ)
  | [], _ => [[]]
  | j :: js, s => (P.options j).flatMap fun c =>
      match P.place j c s with
      | none => []
      | some s' => (leaves js s').map (c :: ·)

/-- The state a path leads to, if every step of it fits. -/
def replay : List J → List κ → σ → Option σ
  | [], [], s => some s
  | j :: js, c :: cs, s => (P.place j c s).bind (replay js cs)
  | _, _, _ => none

/-- The leaves are the choices whose replay fits. -/
theorem leaves_eq_filter (js : List J) (s : σ) :
    leaves P js s =
      (choices (js.map P.options)).filter fun path => (replay P js path s).isSome := by
  induction js generalizing s with
  | nil => simp [leaves, choices, replay, filter_cons]
  | cons j js ih =>
    simp only [leaves, map_cons, choices, filter_flatMap, List.filter_map]
    congr 1
    funext c
    cases h : P.place j c s with
    | none => simp [replay, h, Function.comp_def]
    | some s' => simp [replay, h, Function.comp_def, ih]

/-! ## Candidates -/

section

variable [AddCommMonoid γ]

def pathCost : List J → List κ → γ
  | j :: js, c :: cs => P.cost j c + pathCost js cs
  | _, _ => 0

/-- The candidate a leaf below the node `(path, running)` stands for. -/
def candidate (js : List J) (path : List κ) (running : γ) (leaf : List κ) : γ × List κ :=
  (running + pathCost P js leaf, path ++ leaf)

theorem candidate_cons (j : J) (js : List J) (path : List κ) (running : γ) (c : κ) (leaf : List κ) :
    candidate P (j :: js) path running (c :: leaf) =
      candidate P js (path ++ [c]) (running + P.cost j c) leaf := by
  simp [candidate, pathCost, add_assoc]

end

section

variable [LinearOrder γ]

/-- Keep the earlier of two candidates unless the later one is cheaper. -/
def keepFirst : Option (γ × List κ) → γ × List κ → Option (γ × List κ) :=
  List.argAux fun b c => b.1 < c.1

/-- A candidate stays the best when no later one is cheaper. -/
theorem foldl_keepFirst_of_le
    (h : ∀ c ∈ l, b.1 ≤ c.1) : l.foldl keepFirst (some b) = some b := by
  induction l with
  | nil => rfl
  | cons c l ih =>
    have hkeep : keepFirst (some b) c = some b :=
      if_neg (not_lt.mpr (h c mem_cons_self))
    rw [foldl_cons, hkeep]
    exact ih fun c hc => h c (mem_cons_of_mem _ hc)

theorem foldl_keepFirst_map (f : List κ → γ) (l : List (List κ)) (o : Option (List κ)) :
    (l.map fun x => (f x, x)).foldl keepFirst (o.map fun x => (f x, x)) =
      (l.foldl (List.argAux fun b c => f b < f c) o).map fun x => (f x, x) := by
  induction l generalizing o with
  | nil => rfl
  | cons x l ih =>
    have hhead : keepFirst (o.map fun x => (f x, x)) (f x, x) =
        (List.argAux (fun b c => f b < f c) o x).map fun x => (f x, x) := by
      cases o with
      | none => rfl
      | some y => by_cases h : f x < f y <;> simp [keepFirst, List.argAux, h]
    rw [map_cons, foldl_cons, hhead, ih, foldl_cons]

end

/-! ## The search -/

/-- What the search has recorded so far; `ticks` counts the nodes visited. -/
structure Progress (κ γ : Type) where
  best : Option (γ × List κ)
  timedOut : Bool
  ticks : Nat

section

variable [LinearOrder γ] (expired : Nat → Bool)

/-- The tests made on entering a node: the clock, then the bound. -/
def enter (running : γ) (body : Progress κ γ → Progress κ γ) (p : Progress κ γ) :
    Progress κ γ :=
  if expired p.ticks then { p with ticks := p.ticks + 1, timedOut := true }
  else if p.best.any (fun b => b.1 ≤ running) then { p with ticks := p.ticks + 1 }
  else body { p with ticks := p.ticks + 1 }

variable [AddCommMonoid γ]

def search : List J → σ → List κ → γ → Progress κ γ → Progress κ γ
  | [], _, path, running => enter expired running fun p =>
      { p with best := some (running, path) }
  | j :: js, s, path, running => enter expired running fun p =>
      (P.options j).foldl (fun p c =>
        match P.place j c s with
        | none => p
        | some s' => search js s' (path ++ [c]) (running + P.cost j c) p) p

theorem search_timedOut (hclock : ∀ n, expired n = false) (js : List J) (s : σ) (path : List κ)
    (running : γ) (p : Progress κ γ) :
    (search P expired js s path running p).timedOut = p.timedOut := by
  induction js generalizing s path running p with
  | nil =>
    simp only [search, enter, hclock, Bool.false_eq_true, if_false]
    split <;> rfl
  | cons j js ih =>
    simp only [search, enter, hclock, Bool.false_eq_true, if_false]
    split
    · rfl
    refine List.foldlRecOn (P.options j) _
      (motive := fun q : Progress κ γ => q.timedOut = p.timedOut) rfl fun q hq c _ => ?_
    cases P.place j c s with
    | none => exact hq
    | some s' => exact (ih s' _ _ q).trans hq

/-! ## Only leaves are recorded -/

/-- A property of candidates that the records keep is kept by the search if
every leaf has it. -/
theorem search_best_all {Q : γ × List κ → Prop} (js : List J) (s : σ) (path : List κ)
    (running : γ) (p : Progress κ γ) (hp : ∀ b ∈ p.best, Q b)
    (hleaf : ∀ leaf ∈ leaves P js s, Q (candidate P js path running leaf)) :
    ∀ b ∈ (search P expired js s path running p).best, Q b := by
  induction js generalizing s path running p with
  | nil =>
    rw [search, enter]
    split
    · exact hp
    split
    · exact hp
    · intro b hb
      cases hb
      simpa [candidate, pathCost] using hleaf [] (by simp [leaves])
  | cons j js ih =>
    rw [search, enter]
    split
    · exact hp
    split
    · exact hp
    refine List.foldlRecOn (P.options j) _ (motive := fun q : Progress κ γ => ∀ b ∈ q.best, Q b)
      hp fun q hq c hc => ?_
    cases hplace : P.place j c s with
    | none => exact hq
    | some s' =>
      refine ih s' (path ++ [c]) (running + P.cost j c) q hq ?_
      intro leaf hmem
      rw [← candidate_cons]
      refine hleaf (c :: leaf) ?_
      simp only [leaves, mem_flatMap]
      exact ⟨c, hc, by simpa [hplace] using hmem⟩

/-- **The best is a leaf**, whatever the clock does. -/
theorem search_best_mem {s : σ}
    (h : b ∈ (search P expired js s [] 0 ⟨none, false, 0⟩).best) :
    b.2 ∈ leaves P js s ∧ b.1 = pathCost P js b.2 := by
  refine search_best_all P expired (Q := fun b => b.2 ∈ leaves P js s ∧ b.1 = pathCost P js b.2)
    js s [] 0 ⟨none, false, 0⟩ (by simp) (fun leaf hleaf => ?_) b h
  simpa [candidate] using hleaf

end

/-! ## A search that never timed out is complete -/

section

variable [LinearOrder γ] (expired : Nat → Bool)

/-- Unless the clock expires in it, `f` takes the candidates `l` in order
into account. -/
def Completes (f : Progress κ γ → Progress κ γ) (l : List (γ × List κ)) : Prop :=
  ∀ p, (f p).timedOut = false → p.timedOut = false ∧ (f p).best = l.foldl keepFirst p.best

theorem completes_id : Completes (fun p : Progress κ γ => p) [] := fun _ h => ⟨h, rfl⟩

theorem Completes.foldl {cs : List κ} {f : κ → Progress κ γ → Progress κ γ}
    {l : κ → List (γ × List κ)} (h : ∀ c ∈ cs, Completes (f c) (l c)) :
    Completes (fun p => cs.foldl (fun p c => f c p) p) (cs.flatMap l) := by
  induction cs with
  | nil => exact completes_id
  | cons c cs ih =>
    intro p hp
    obtain ⟨hmid, hrest⟩ := ih (fun c hc => h c (mem_cons_of_mem _ hc)) (f c p) hp
    obtain ⟨hstart, hhead⟩ := h c mem_cons_self p hmid
    refine ⟨hstart, ?_⟩
    rw [flatMap_cons, foldl_append, ← hhead]
    exact hrest

/-- Entering a node keeps completeness: pruning is sound when every candidate
below the node costs at least the running cost. -/
theorem Completes.enter {running : γ} {body : Progress κ γ → Progress κ γ}
    (hbound : ∀ c ∈ l, running ≤ c.1)
    (hbody : ∀ p, (∀ b ∈ p.best, running < b.1) → (body p).timedOut = false →
      p.timedOut = false ∧ (body p).best = l.foldl keepFirst p.best) :
    Completes (enter expired running body) l := by
  intro p hp
  unfold BranchBound.enter at hp ⊢
  split at hp
  · cases hp
  rename_i hclock
  rw [if_neg hclock]
  split at hp
  · rename_i hprune
    rw [if_pos hprune]
    refine ⟨hp, ?_⟩
    cases hb : p.best with
    | none => simp [hb] at hprune
    | some b =>
      have hle : b.1 ≤ running := by simpa [hb] using hprune
      exact (foldl_keepFirst_of_le fun c hc => hle.trans (hbound c hc)).symm
  · rename_i hprune
    rw [if_neg hprune]
    refine hbody { p with ticks := p.ticks + 1 } (fun b hb => ?_) hp
    have hb : p.best = some b := hb
    simpa [hb] using hprune

variable [AddCommMonoid γ] [IsOrderedAddMonoid γ]
  {js : List J} {s : σ}

theorem pathCost_nonneg (hcost : ∀ j ∈ js, ∀ c ∈ P.options j, 0 ≤ P.cost j c) {leaf : List κ}
    (hleaf : leaf ∈ leaves P js s) : 0 ≤ pathCost P js leaf := by
  induction js generalizing s leaf with
  | nil => simp [pathCost]
  | cons j js ih =>
    simp only [leaves, mem_flatMap] at hleaf
    obtain ⟨c, hc, hmem⟩ := hleaf
    cases hplace : P.place j c s with
    | none => simp [hplace] at hmem
    | some s' =>
      simp only [hplace, mem_map] at hmem
      obtain ⟨rest, hrest, rfl⟩ := hmem
      exact add_nonneg (hcost j mem_cons_self c hc)
        (ih (fun k hk => hcost k (mem_cons_of_mem _ hk)) hrest)

theorem search_completes (js : List J) (s : σ) (path : List κ) (running : γ)
    (hcost : ∀ j ∈ js, ∀ c ∈ P.options j, 0 ≤ P.cost j c) :
    Completes (search P expired js s path running)
      ((leaves P js s).map (candidate P js path running)) := by
  have hbound : ∀ c ∈ (leaves P js s).map (candidate P js path running), running ≤ c.1 := by
    intro c hc
    obtain ⟨leaf, hleaf, rfl⟩ := mem_map.mp hc
    exact le_add_of_nonneg_right (pathCost_nonneg P hcost hleaf)
  induction js generalizing s path running with
  | nil =>
    refine Completes.enter expired hbound fun p hp hout => ⟨hout, ?_⟩
    cases hbest : p.best with
    | none => simp [leaves, candidate, pathCost, keepFirst, List.argAux]
    | some b =>
      have hlt : running < b.1 := hp b hbest
      simp [leaves, candidate, pathCost, keepFirst, List.argAux, hlt]
  | cons j js ih =>
    refine Completes.enter expired hbound ?_
    intro p _
    have hlist : (leaves P (j :: js) s).map (candidate P (j :: js) path running) =
        (P.options j).flatMap fun c => match P.place j c s with
          | none => []
          | some s' => (leaves P js s').map
              (candidate P js (path ++ [c]) (running + P.cost j c)) := by
      rw [leaves, map_flatMap]
      congr 1
      funext c
      cases P.place j c s with
      | none => rfl
      | some s' => simp [Function.comp_def, candidate_cons]
    rw [hlist]
    refine Completes.foldl (fun c hc => ?_) p
    cases hplace : P.place j c s with
    | none => exact completes_id
    | some s' =>
      have hcost' : ∀ k ∈ js, ∀ c ∈ P.options k, 0 ≤ P.cost k c :=
        fun k hk => hcost k (mem_cons_of_mem _ hk)
      refine ih s' (path ++ [c]) (running + P.cost j c) hcost' ?_
      intro d hd
      obtain ⟨leaf, hleaf, rfl⟩ := mem_map.mp hd
      exact le_add_of_nonneg_right (pathCost_nonneg P hcost' hleaf)

/-- **The best is the first leaf of minimum cost**, when the clock never
expired and no option has a negative cost. -/
theorem search_best (hcost : ∀ j ∈ js, ∀ c ∈ P.options j, 0 ≤ P.cost j c)
    (hout : (search P expired js s [] 0 ⟨none, false, 0⟩).timedOut = false) :
    (search P expired js s [] 0 ⟨none, false, 0⟩).best =
      ((leaves P js s).argmin (pathCost P js)).map fun leaf => (pathCost P js leaf, leaf) := by
  rw [(search_completes P expired js s [] 0 hcost _ hout).2]
  have hcandidate : candidate P js [] 0 = fun leaf => (pathCost P js leaf, leaf) := by
    funext leaf
    simp [candidate]
  rw [hcandidate]
  exact foldl_keepFirst_map (pathCost P js) (leaves P js s) none

end

/-! ## Other costs in the same order -/

section

variable {γ' : Type}

/-- The same decisions at other costs. -/
def Problem.mapCost (f : γ → γ') : Problem J κ σ γ' :=
  { P with cost := fun j c => f (P.cost j c) }

/-- `F` never takes a timeout back. -/
def Lasting (F : Progress κ γ → Progress κ γ) : Prop :=
  ∀ p, (F p).timedOut = false → p.timedOut = false

variable {cs : List κ} {F : κ → Progress κ γ → Progress κ γ} {f : γ → γ'}

theorem Lasting.foldl (h : ∀ c, Lasting (F c)) :
    Lasting fun p => cs.foldl (fun p c => F c p) p := by
  induction cs with
  | nil => exact fun _ hp => hp
  | cons c cs ih => exact fun p hp => h c p (ih (F c p) hp)

/-- Unless a clock expires, `F'` records what `F` records, at the other cost. -/
def Mirrors (f : γ → γ') (F : Progress κ γ → Progress κ γ) (F' : Progress κ γ' → Progress κ γ') :
    Prop :=
  ∀ p p', p'.best = p.best.map (Prod.map f id) → (F p).timedOut = false →
    (F' p').timedOut = false → (F' p').best = (F p).best.map (Prod.map f id)

theorem Mirrors.foldl {F' : κ → Progress κ γ' → Progress κ γ'}
    (h : ∀ c, Mirrors f (F c) (F' c)) (hF : ∀ c, Lasting (F c)) (hF' : ∀ c, Lasting (F' c)) :
    Mirrors f (fun p => cs.foldl (fun p c => F c p) p)
      (fun p => cs.foldl (fun p c => F' c p) p) := by
  induction cs with
  | nil => exact fun _ _ hbest _ _ => hbest
  | cons c cs ih =>
    intro p p' hbest hout hout'
    refine ih (F c p) (F' c p') (h c p p' hbest ?_ ?_) hout hout'
    · exact Lasting.foldl hF (F c p) hout
    · exact Lasting.foldl hF' (F' c p') hout'

section

variable [LinearOrder γ] [LinearOrder γ']
  {running : γ} {body : Progress κ γ → Progress κ γ}

theorem Lasting.enter {expired : Nat → Bool} (h : Lasting body) :
    Lasting (enter expired running body) := by
  intro p hp
  unfold BranchBound.enter at hp
  split at hp
  · cases hp
  · split at hp
    · exact hp
    · exact h { p with ticks := p.ticks + 1 } hp

/-- The bound is decided in the same way. -/
theorem Mirrors.enter (hf : StrictMono f) {expired expired' : Nat → Bool}
    {body' : Progress κ γ' → Progress κ γ'} (h : Mirrors f body body') :
    Mirrors f (enter expired running body) (enter expired' (f running) body') := by
  intro p p' hbest hout hout'
  have hprune : (p'.best.any fun b => b.1 ≤ f running) = p.best.any fun b => b.1 ≤ running := by
    rw [hbest]
    cases p.best with
    | none => rfl
    | some b => simp [hf.le_iff_le]
  unfold BranchBound.enter at hout hout' ⊢
  rw [hprune] at hout' ⊢
  split at hout
  · cases hout
  split at hout'
  · cases hout'
  rename_i hclock hclock'
  rw [if_neg hclock, if_neg hclock']
  split
  · exact hbest
  · rename_i hopen
    rw [if_neg hopen] at hout hout'
    exact h _ _ hbest hout hout'

end

variable [LinearOrder γ] [AddCommMonoid γ] [LinearOrder γ'] [AddCommMonoid γ']

theorem search_lasting (expired : Nat → Bool) (js : List J) (s : σ) (path : List κ)
    (running : γ) : Lasting (search P expired js s path running) := by
  induction js generalizing s path running with
  | nil => exact Lasting.enter fun _ hp => hp
  | cons j js ih =>
    refine Lasting.enter (Lasting.foldl fun c => ?_)
    cases P.place j c s with
    | none => exact fun _ hp => hp
    | some s' => exact ih s' _ _

/-- **Two searches step by step.** -/
theorem search_mirrors (f : γ →+ γ') (hf : StrictMono f) (expired expired' : Nat → Bool)
    (js : List J) (s : σ) (path : List κ) (running : γ) :
    Mirrors f (search P expired js s path running)
      (search (P.mapCost f) expired' js s path (f running)) := by
  induction js generalizing s path running with
  | nil => exact Mirrors.enter hf fun _ _ _ _ _ => rfl
  | cons j js ih =>
    refine Mirrors.enter hf (Mirrors.foldl (fun c => ?_) (fun c => ?_) fun c => ?_)
    · simp only [Problem.mapCost, ← map_add]
      cases P.place j c s with
      | none => exact fun _ _ hbest _ _ => hbest
      | some s' => exact ih s' _ _
    · cases P.place j c s with
      | none => exact fun _ hp => hp
      | some s' => exact search_lasting P expired js s' _ _
    · simp only [Problem.mapCost]
      cases P.place j c s with
      | none => exact fun _ hp => hp
      | some s' => exact search_lasting (P.mapCost f) expired' js s' _ _

/-- **The same leaf is recorded at the other cost**, when neither clock expired. -/
theorem search_mapCost (f : γ →+ γ') (hf : StrictMono f) (expired expired' : Nat → Bool)
    {s : σ} (hout : (search P expired js s [] 0 ⟨none, false, 0⟩).timedOut = false)
    (hout' : (search (P.mapCost f) expired' js s [] 0 ⟨none, false, 0⟩).timedOut = false) :
    (search (P.mapCost f) expired' js s [] 0 ⟨none, false, 0⟩).best =
      (search P expired js s [] 0 ⟨none, false, 0⟩).best.map (Prod.map f id) := by
  have hmirrors := search_mirrors P f hf expired expired' js s [] 0
  rw [map_zero] at hmirrors
  exact hmirrors _ _ rfl hout hout'

end

end Lib.BranchBound
