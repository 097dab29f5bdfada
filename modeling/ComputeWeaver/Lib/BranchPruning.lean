/-
Lib.BranchPruning — what branch and bound records when options may
have negative costs.

The bound compares the cost of a PART of a path with the best leaf so far, so a
part that is dear for now is dropped although its completion may be cheap.
`records` says which leaves are recorded, from the list of leaves alone: those
of which every part is cheaper than the recorded leaves that do not share it.
`search_tracks` is the step from a node to its children, `search_records` the
result: the best is the last recorded leaf, or an earlier one if the clock ran out.
-/
import ComputeWeaver.Lib.BranchBound

namespace Lib.BranchBound

open List

variable {J κ σ γ : Type} (P : Problem J κ σ γ) [LinearOrder γ] [AddCommMonoid γ]

/-! ## The recorded leaves -/

/-- Every part of the leaf is cheaper than the records that do not share it. -/
def Passes (js : List J) (records : List (List κ)) (leaf : List κ) : Prop :=
  ∀ part ∈ leaf.inits, ∀ record ∈ records, ¬ part <+: record →
    pathCost P js part < pathCost P js record

instance [DecidableEq κ] (js : List J) (records : List (List κ)) (leaf : List κ) :
    Decidable (Passes P js records leaf) := by
  unfold Passes
  infer_instance

variable [DecidableEq κ]

def record (js : List J) (records : List (List κ)) (leaf : List κ) : List (List κ) :=
  if Passes P js records leaf then records ++ [leaf] else records

/-- The leaves recorded out of a list of leaves in the order of the tree. -/
def records (js : List J) (leaves : List (List κ)) : List (List κ) :=
  leaves.foldl (record P js) []

variable {P} {all : List J}

theorem foldl_record (P : Problem J κ σ γ) (all : List J) (leaves recorded : List (List κ)) :
    ∃ added, leaves.foldl (record P all) recorded = recorded ++ added ∧ added ⊆ leaves := by
  induction leaves generalizing recorded with
  | nil => exact ⟨[], by simp, by simp⟩
  | cons leaf rest ih =>
    by_cases hpass : Passes P all recorded leaf
    · obtain ⟨added, hadded, hsub⟩ := ih (recorded ++ [leaf])
      refine ⟨leaf :: added, ?_, cons_subset_cons leaf hsub⟩
      rw [foldl_cons, record, if_pos hpass, hadded, append_assoc, singleton_append]
    · obtain ⟨added, hadded, hsub⟩ := ih recorded
      refine ⟨added, ?_, List.Subset.trans hsub (subset_cons_self _ _)⟩
      rw [foldl_cons, record, if_neg hpass, hadded]

/-- Of leaves of one length each record is cheaper than those before it. -/
theorem pairwise_records (P : Problem J κ σ γ) (all : List J) {leaves : List (List κ)}
    (hnodup : leaves.Nodup) (hlength : ∀ leaf ∈ leaves, leaf.length = all.length) :
    (records P all leaves).Pairwise fun a b => pathCost P all b < pathCost P all a := by
  induction leaves using List.reverseRecOn with
  | nil => exact .nil
  | append_singleton rest leaf ih =>
    obtain ⟨hrest, -, hfresh⟩ := nodup_append.mp hnodup
    have hlengths : ∀ other ∈ rest, other.length = all.length := fun other hother =>
      hlength other (mem_append_left _ hother)
    obtain ⟨added, hadded, hsub⟩ := foldl_record P all rest []
    have hrecords : records P all (rest ++ [leaf]) = record P all (records P all rest) leaf := by
      simp [records]
    rw [hrecords, record]
    split
    · rename_i hpass
      refine pairwise_append.mpr ⟨ih hrest hlengths, pairwise_singleton _ _, fun a ha b hb => ?_⟩
      rw [mem_singleton.mp hb]
      have hmem : a ∈ rest := by
        rw [records, hadded] at ha
        exact hsub ha
      -- the leaf itself is a part that an earlier record does not share
      refine hpass leaf ((mem_inits _ _).mpr (List.prefix_refl _)) a ha fun hshare => ?_
      have heq : leaf = a := hshare.eq_of_length
        ((hlength leaf (by simp)).trans (hlengths a hmem).symm)
      exact hfresh a hmem leaf (mem_singleton_self _) heq.symm
    · exact ih hrest hlengths

variable {recorded : List (List κ)} {path : List κ} {expired : Nat → Bool}

/-- A part that is not cheaper than a record keeps all leaves that share it
out. -/
theorem foldl_record_of_le {leaves : List (List κ)} {part best : List κ} (hbest : best ∈ recorded)
    (hshare : ¬ part <+: best) (hle : pathCost P all best ≤ pathCost P all part)
    (hleaves : ∀ leaf ∈ leaves, part <+: leaf) :
    leaves.foldl (record P all) recorded = recorded := by
  induction leaves with
  | nil => rfl
  | cons leaf rest ih =>
    obtain ⟨hleaf, hrest⟩ := forall_mem_cons.mp hleaves
    have hnot : ¬ Passes P all recorded leaf := fun hpass =>
      hle.not_gt (hpass part ((mem_inits _ _).mpr hleaf) best hbest hshare)
    rw [foldl_cons, record, if_neg hnot]
    exact ih hrest

omit [LinearOrder γ] [DecidableEq κ] in
theorem pathCost_append {done js : List J} {rest : List κ} (h : path.length = done.length) :
    pathCost P (done ++ js) (path ++ rest) = pathCost P done path + pathCost P js rest := by
  induction done generalizing path with
  | nil =>
    rw [eq_nil_of_length_eq_zero h]
    simp [pathCost]
  | cons j done ih =>
    cases path with
    | nil => cases h
    | cons c path =>
      simp only [cons_append, pathCost, ih (Nat.succ_injective h), add_assoc]

/-! ## Nodes -/

structure Tracks (P : Problem J κ σ γ) (all : List J) (recorded : List (List κ))
    (best : Option (γ × List κ)) : Prop where
  le : ∀ record ∈ recorded, ∃ b ∈ best, b.1 ≤ pathCost P all record
  mem : ∀ b ∈ best, b.2 ∈ recorded ∧ b.1 = pathCost P all b.2

/-- Every part of the path is cheaper than the records that do not share it. -/
def Open (P : Problem J κ σ γ) (all : List J) (recorded : List (List κ)) (path : List κ) : Prop :=
  ∀ part, part <+: path → ∀ record ∈ recorded, ¬ part <+: record →
    pathCost P all part < pathCost P all record

omit [DecidableEq κ] in
/-- Records below a node say nothing about its parts. -/
theorem Open.append {added : List (List κ)} (h : Open P all recorded path)
    (hadded : ∀ record ∈ added, path <+: record) : Open P all (recorded ++ added) path := by
  intro part hpart record hrecord hshare
  rcases mem_append.mp hrecord with hold | hnew
  · exact h part hpart record hold hshare
  · exact absurd (hpart.trans (hadded record hnew)) hshare

/-- As long as the clock has not expired the best tracks the records. A clock that
stays expired leaves the best alone, so that it is one of them. -/
structure Recorded (P : Problem J κ σ γ) (all : List J) (expired : Nat → Bool)
    (recorded : List (List κ)) (p : Progress κ γ) : Prop where
  tracks : p.timedOut = false → Tracks P all recorded p.best
  late : Monotone expired → p.timedOut = true →
    expired p.ticks = true ∧ ∀ b ∈ p.best, b.2 ∈ recorded

/-- `f` records what passes of the leaves. -/
def NodeTracks (P : Problem J κ σ γ) (all : List J) (expired : Nat → Bool)
    (f : Progress κ γ → Progress κ γ) (leaves recorded : List (List κ)) : Prop :=
  ∀ p, Recorded P all expired recorded p →
    Recorded P all expired (leaves.foldl (record P all) recorded) (f p)

/-- The tests at a node: the bound keeps out what would not pass. -/
theorem nodeTracks_enter {body : Progress κ γ → Progress κ γ} (hlasting : Lasting body)
    {leaves : List (List κ)} (houtside : ∀ record ∈ recorded, ¬ path <+: record)
    (hleaves : ∀ leaf ∈ leaves, path <+: leaf)
    (hbody : (∀ record ∈ recorded, pathCost P all path < pathCost P all record) →
      NodeTracks P all expired body leaves recorded) :
    NodeTracks P all expired (enter expired (pathCost P all path) body) leaves recorded := by
  intro p hp
  unfold enter
  by_cases hclock : expired p.ticks = true
  · rw [if_pos hclock]
    refine ⟨fun hout => ?_, fun hmono _ => ⟨?_, fun b hb => ?_⟩⟩
    · cases hout
    · exact Bool.eq_true_of_true_le (by simpa [hclock] using hmono p.ticks.le_succ)
    · obtain ⟨added, hadded, -⟩ := foldl_record P all leaves recorded
      rw [hadded]
      refine mem_append_left _ ?_
      cases hlate : p.timedOut with
      | false => exact ((hp.tracks hlate).mem b hb).1
      | true => exact (hp.late hmono hlate).2 b hb
  rw [if_neg hclock]
  -- a clock that was late before does not stay expired
  have hlate : Monotone expired → p.timedOut = false := fun hmono => by
    by_contra htrue
    exact hclock (hp.late hmono (by simpa using htrue)).1
  by_cases hprune : p.best.any (fun b => b.1 ≤ pathCost P all path) = true
  · rw [if_pos hprune]
    refine ⟨fun hout => ?_, fun hmono htrue => absurd ((hlate hmono).symm.trans htrue) (by decide)⟩
    have htracks := hp.tracks hout
    cases hbest : p.best with
    | none => simp [hbest] at hprune
    | some b =>
      obtain ⟨hmem, hcost⟩ := htracks.mem b hbest
      have hle : pathCost P all b.2 ≤ pathCost P all path := by
        simpa [hbest, hcost] using hprune
      rw [foldl_record_of_le hmem (houtside _ hmem) hle hleaves, ← hbest]
      exact htracks
  rw [if_neg hprune]
  by_cases hout : p.timedOut = false
  · have htracks := hp.tracks hout
    refine hbody (fun record hrecord => ?_) { p with ticks := p.ticks + 1 }
      ⟨fun _ => htracks, fun _ htrue => absurd (hout.symm.trans htrue) (by decide)⟩
    obtain ⟨b, hb, hle⟩ := htracks.le record hrecord
    have hbest : p.best = some b := hb
    have hlt : pathCost P all path < b.1 := by simpa [hbest] using hprune
    exact hlt.trans_le hle
  · exact ⟨fun hfalse => absurd (hlasting { p with ticks := p.ticks + 1 } hfalse) hout,
      fun hmono _ => absurd (hlate hmono) hout⟩

/-- The loop over the options of a node, from the tracks of its children. -/
theorem nodeTracks_foldl {cs : List κ} (hnodup : cs.Nodup) {f : κ → Progress κ γ → Progress κ γ}
    {below : κ → List (List κ)} (hbelow : ∀ c ∈ cs, ∀ leaf ∈ below c, path ++ [c] <+: leaf)
    (hchild : ∀ c ∈ cs, ∀ recorded, (∀ record ∈ recorded, ¬ path ++ [c] <+: record) →
      Open P all recorded path → NodeTracks P all expired (f c) (below c) recorded)
    (houtside : ∀ c ∈ cs, ∀ record ∈ recorded, ¬ path ++ [c] <+: record)
    (hopen : Open P all recorded path) :
    NodeTracks P all expired (fun p => cs.foldl (fun p c => f c p) p) (cs.flatMap below)
      recorded := by
  induction cs generalizing recorded with
  | nil => exact fun p hp => hp
  | cons c cs ih =>
    obtain ⟨hfresh, hnodup⟩ := nodup_cons.mp hnodup
    obtain ⟨hhead, hbelow⟩ := forall_mem_cons.mp hbelow
    obtain ⟨added, hadded, hsub⟩ := foldl_record P all (below c) recorded
    have hextends : ∀ record ∈ added, path ++ [c] <+: record := fun record h =>
      hhead record (hsub h)
    -- what the first child records is below it, so outside the other children
    have hrest : NodeTracks P all expired (fun p => cs.foldl (fun p c => f c p) p)
        (cs.flatMap below) (recorded ++ added) := by
      refine ih hnodup hbelow (fun d hd => hchild d (mem_cons_of_mem _ hd)) ?_
        (hopen.append fun record h => (prefix_append _ _).trans (hextends record h))
      intro d hd record hrecord hshare
      rcases mem_append.mp hrecord with hold | hnew
      · exact houtside d (mem_cons_of_mem _ hd) record hold hshare
      have heq : path ++ [d] = path ++ [c] :=
        (prefix_of_prefix_length_le hshare (hextends record hnew) (by simp)).eq_of_length
          (by simp)
      rw [append_cancel_left_eq, singleton_inj] at heq
      exact hfresh (heq ▸ hd)
    intro p hp
    have hfirst := hchild c mem_cons_self recorded (houtside c mem_cons_self) hopen p hp
    rw [hadded] at hfirst
    rw [flatMap_cons, foldl_append, hadded]
    exact hrest (f c p) hfirst

/-! ## The search -/

/-- The leaves below an option, as paths from the root. -/
def below (P : Problem J κ σ γ) (j : J) (js : List J) (s : σ) (path : List κ) (c : κ) :
    List (List κ) :=
  match P.place j c s with
  | none => []
  | some s' => (leaves P js s').map (path ++ [c] ++ ·)

omit [LinearOrder γ] [AddCommMonoid γ] [DecidableEq κ] in
theorem map_leaves_cons (j : J) (js : List J) (s : σ) (path : List κ) :
    (leaves P (j :: js) s).map (path ++ ·) = (P.options j).flatMap (below P j js s path) := by
  rw [leaves, map_flatMap]
  congr 1
  funext c
  unfold below
  cases P.place j c s with
  | none => rfl
  | some s' => simp [Function.comp_def]

section

variable (hnodup : ∀ j ∈ all, (P.options j).Nodup)
include hnodup

/-- **One node.** Below it the search records the leaves that pass. -/
theorem search_tracks (js done : List J) (hall : all = done ++ js) (s : σ)
    (path : List κ) (hlength : path.length = done.length) (recorded : List (List κ))
    (houtside : ∀ record ∈ recorded, ¬ path <+: record)
    (hparts : ∀ part, part <+: path → part ≠ path → ∀ record ∈ recorded, ¬ part <+: record →
      pathCost P all part < pathCost P all record) :
    NodeTracks P all expired (search P expired js s path (pathCost P all path))
      ((leaves P js s).map (path ++ ·)) recorded := by
  have hopen : (∀ record ∈ recorded, pathCost P all path < pathCost P all record) →
      Open P all recorded path := by
    intro hpath part hpart record hrecord hshare
    by_cases heq : part = path
    · exact heq ▸ hpath record hrecord
    · exact hparts part hpart heq record hrecord hshare
  induction js generalizing done s path recorded with
  | nil =>
    have hlasting : Lasting fun p : Progress κ γ =>
        { p with best := some (pathCost P all path, path) } := fun _ hp => hp
    refine nodeTracks_enter hlasting houtside (by simp [leaves]) fun hpath p hp => ?_
    have hpass : Passes P all recorded path := fun part hpart =>
      hopen hpath part ((mem_inits _ _).mp hpart)
    have hrecord : ((leaves P [] s).map (path ++ ·)).foldl (record P all) recorded =
        recorded ++ [path] := by
      simp [leaves, record, hpass]
    rw [hrecord]
    refine ⟨fun _ => ⟨fun leaf hleaf => ⟨_, rfl, ?_⟩, ?_⟩, fun hmono htrue => ?_⟩
    · rcases mem_append.mp hleaf with hold | hnew
      · exact (hpath leaf hold).le
      · rw [mem_singleton.mp hnew]
    · rintro b hb
      cases hb
      exact ⟨by simp, rfl⟩
    · refine ⟨(hp.late hmono htrue).1, ?_⟩
      rintro b hb
      cases hb
      simp
  | cons j js ih =>
    have hlasting : ∀ c, Lasting fun p => match P.place j c s with
        | none => p
        | some s' => search P expired js s' (path ++ [c]) (pathCost P all path + P.cost j c) p := by
      intro c
      cases P.place j c s with
      | none => exact fun _ hp => hp
      | some s' => exact search_lasting P expired js s' _ _
    refine nodeTracks_enter (Lasting.foldl hlasting) houtside (by simp) fun hpath => ?_
    have hj : j ∈ all := hall ▸ by simp
    rw [map_leaves_cons]
    refine nodeTracks_foldl (hnodup j hj) ?_ ?_ ?_ (hopen hpath)
    · intro c _ leaf hleaf
      unfold below at hleaf
      cases hplace : P.place j c s with
      | none => simp [hplace] at hleaf
      | some s' =>
        simp only [hplace, mem_map] at hleaf
        obtain ⟨rest, -, rfl⟩ := hleaf
        exact prefix_append _ _
    · intro c _ inside hinside hinsideOpen
      unfold below
      cases hplace : P.place j c s with
      | none => exact fun p hp => hp
      | some s' =>
        have hcost : pathCost P all path + P.cost j c = pathCost P all (path ++ [c]) := by
          have hparent : pathCost P (done ++ j :: js) (path ++ []) =
              pathCost P done path + pathCost P (j :: js) [] := pathCost_append hlength
          rw [append_nil] at hparent
          rw [hall, hparent, pathCost_append hlength]
          simp [pathCost]
        simp only [hcost]
        have hproper : ∀ part, part <+: path ++ [c] → part ≠ path ++ [c] →
            ∀ record ∈ inside, ¬ part <+: record →
              pathCost P all part < pathCost P all record := by
          intro part hpart hne
          rcases prefix_concat_iff.mp hpart with heq | hshort
          · exact absurd heq hne
          · exact hinsideOpen part hshort
        refine ih (done ++ [j]) (by simpa using hall) s' (path ++ [c]) (by simp [hlength]) inside
          hinside hproper fun hchild part hpart record hrecord hshare => ?_
        by_cases heq : part = path ++ [c]
        · exact heq ▸ hchild record hrecord
        · exact hproper part hpart heq record hrecord hshare
    · intro c _ record hrecord hshare
      exact houtside record hrecord ((prefix_append _ _).trans hshare)

/-- **Main result.** The best of a search tracks the recorded leaves; under a clock
that stays expired it is one of them. -/
theorem search_records (s : σ) :
    Recorded P all expired (records P all (leaves P all s))
      (search P expired all s [] 0 ⟨none, false, 0⟩) := by
  have hroot : pathCost P all [] = 0 := by cases all <;> rfl
  have hnode : NodeTracks P all expired (search P expired all s [] (pathCost P all []))
      ((leaves P all s).map ([] ++ ·)) [] :=
    search_tracks hnodup all [] rfl s [] rfl [] (by simp) (by simp)
  rw [hroot] at hnode
  have hstart : Recorded P all expired [] ⟨none, false, 0⟩ :=
    ⟨fun _ => ⟨by simp, by simp⟩, fun _ hlate => by cases hlate⟩
  simpa [records] using hnode _ hstart

/-- The best of a search that completes is the last record. -/
theorem search_getLast (s : σ)
    (hdistinct : (leaves P all s).Nodup)
    (hlength : ∀ leaf ∈ leaves P all s, leaf.length = all.length)
    (hout : (search P expired all s [] 0 ⟨none, false, 0⟩).timedOut = false) {b : γ × List κ}
    (hbest : b ∈ (search P expired all s [] 0 ⟨none, false, 0⟩).best) :
    (records P all (leaves P all s)).getLast? = some b.2 := by
  have htracks := (search_records hnodup s).tracks hout
  obtain ⟨hmem, hcost⟩ := htracks.mem b hbest
  have hcheaper := pairwise_records P all hdistinct hlength
  rcases eq_nil_or_concat (records P all (leaves P all s)) with hnil | ⟨front, last, hlast⟩
  · rw [hnil] at hmem
    cases hmem
  rw [concat_eq_append] at hlast
  rw [hlast] at hmem hcheaper htracks ⊢
  rcases mem_append.mp hmem with hfront | hend
  · obtain ⟨b', hb', hle⟩ := htracks.le last (by simp)
    cases Option.mem_unique hb' hbest
    have hlt := (pairwise_append.mp hcheaper).2.2 b.2 hfront last (mem_singleton_self _)
    exact absurd (hcost ▸ hle) (not_le.mpr hlt)
  · rw [mem_singleton.mp hend]
    simp

/-- The best is a cheapest leaf exactly if some cheapest leaf is recorded. -/
theorem search_optimal_iff (s : σ)
    (hout : (search P expired all s [] 0 ⟨none, false, 0⟩).timedOut = false) {b : γ × List κ}
    (hbest : b ∈ (search P expired all s [] 0 ⟨none, false, 0⟩).best) :
    (∀ leaf ∈ leaves P all s, b.1 ≤ pathCost P all leaf) ↔
      ∃ record ∈ records P all (leaves P all s),
        ∀ leaf ∈ leaves P all s, pathCost P all record ≤ pathCost P all leaf := by
  have htracks := (search_records hnodup s).tracks hout
  obtain ⟨hmem, hcost⟩ := htracks.mem b hbest
  constructor
  · exact fun h => ⟨b.2, hmem, fun leaf hleaf => hcost ▸ h leaf hleaf⟩
  · rintro ⟨record, hrecord, hleast⟩ leaf hleaf
    obtain ⟨b', hb', hle⟩ := htracks.le record hrecord
    cases Option.mem_unique hb' hbest
    exact hle.trans (hleast leaf hleaf)

end

end Lib.BranchBound
