/-
Lib.HashChain — records that each carry the hash of the one
before.

`verifyFrom` walks a list: every record must point to the hash that came before
it and carry the digest of its own content. Where a digest tells which hash the
record points to, and no digest is the start, the last hash tells the whole
walk: two lists that verify and end in the same hash agree record by record
(`forall₂_of_headFrom_eq`). Nothing is assumed of the lengths; a longer list
would have a record that points to the start.
-/
import Mathlib.Data.List.Forall2
import Mathlib.Data.List.Induction
import Mathlib.Data.List.TakeWhile

namespace Lib

open List

structure HashLinks (α H : Type) where
  /-- the hash that the record points to -/
  previous : α → H
  /-- the hash that the record carries -/
  hash : α → H
  /-- the hash of its content -/
  digest : α → H

namespace HashLinks

variable {α H : Type} [DecidableEq H] (links : HashLinks α H)

/-- Walk a list, with the hash that came before it. -/
def verifyFrom : H → List α → Bool
  | _, [] => true
  | previous, a :: rest =>
      if links.previous a ≠ previous then false
      else if links.digest a ≠ links.hash a then false
      else verifyFrom (links.hash a) rest

/-- The hash that a walk ends with. -/
def headFrom (start : H) (l : List α) : H := (l.getLast?.map links.hash).getD start

variable {links} {start : H} {a b : α} {l m : List α}

theorem verifyFrom_cons :
    links.verifyFrom start (a :: l) = true ↔
      links.previous a = start ∧ links.digest a = links.hash a ∧
        links.verifyFrom (links.hash a) l = true := by
  simp only [verifyFrom]
  split
  · simp_all
  split <;> simp_all

omit [DecidableEq H] in
@[simp] theorem headFrom_nil : links.headFrom start [] = start := rfl

omit [DecidableEq H] in
theorem headFrom_cons : links.headFrom start (a :: l) = links.headFrom (links.hash a) l := by
  unfold headFrom
  cases l with
  | nil => rfl
  | cons b l => simp [getLast?_cons]

omit [DecidableEq H] in
@[simp] theorem headFrom_concat : links.headFrom start (l ++ [a]) = links.hash a := by
  simp [headFrom]

theorem verifyFrom_append :
    links.verifyFrom start (l ++ m) = true ↔
      links.verifyFrom start l = true ∧ links.verifyFrom (links.headFrom start l) m = true := by
  induction l generalizing start with
  | nil => simp [verifyFrom]
  | cons a l ih =>
    rw [cons_append, verifyFrom_cons, verifyFrom_cons, ih, headFrom_cons]
    simp only [and_assoc]

theorem verifyFrom_concat :
    links.verifyFrom start (l ++ [a]) = true ↔
      links.verifyFrom start l = true ∧ links.previous a = links.headFrom start l ∧
        links.digest a = links.hash a := by
  rw [verifyFrom_append, verifyFrom_cons]
  simp [verifyFrom]

/-- Records may be exchanged for others with the same links. -/
theorem verifyFrom_map {f : α → α} (hprevious : ∀ a, links.previous (f a) = links.previous a)
    (hhash : ∀ a, links.hash (f a) = links.hash a)
    (hdigest : ∀ a, links.digest (f a) = links.digest a) :
    links.verifyFrom start (l.map f) = links.verifyFrom start l := by
  induction l generalizing start with
  | nil => rfl
  | cons a l ih => simp only [map_cons, verifyFrom, hprevious, hhash, hdigest, ih]

/-! ## The last hash tells the walk -/

variable (links) in
/-- A hash that a walk can come to. -/
def Reached (start h : H) : Prop := h = start ∨ ∃ a, h = links.digest a

theorem reached_headFrom (h : links.verifyFrom start l = true) :
    links.Reached start (links.headFrom start l) := by
  rcases eq_nil_or_concat l with rfl | ⟨l', a, rfl⟩
  · exact .inl rfl
  · rw [concat_eq_append] at h ⊢
    rw [headFrom_concat]
    exact .inr ⟨a, (verifyFrom_concat.mp h).2.2.symm⟩

variable (links) in
/-- The digest of a record tells which hash it points to. -/
structure Binding (start : H) : Prop where
  ne_start : ∀ a, links.digest a ≠ start
  previous : ∀ a b, links.digest a = links.digest b → links.Reached start (links.previous a) →
    links.Reached start (links.previous b) → links.previous a = links.previous b

variable (links) in
/-- The records have the same links. -/
def SameLinks (a b : α) : Prop :=
  links.previous a = links.previous b ∧ links.hash a = links.hash b ∧
    links.digest a = links.digest b

theorem forall₂_of_headFrom_eq (hbind : links.Binding start)
    (hl : links.verifyFrom start l = true) (hm : links.verifyFrom start m = true)
    (hhead : links.headFrom start l = links.headFrom start m) :
    List.Forall₂ links.SameLinks l m := by
  -- from the last records to the first: the start is pointed to in both or in neither
  have hstart : ∀ {l' : List α} {c : α}, links.verifyFrom start (l' ++ [c]) = true →
      links.headFrom start (l' ++ [c]) ≠ start := by
    intro l' c h heq
    rw [headFrom_concat, ← (verifyFrom_concat.mp h).2.2] at heq
    exact hbind.ne_start c heq
  induction l using List.reverseRecOn generalizing m with
  | nil =>
    rcases eq_nil_or_concat m with rfl | ⟨m', b, rfl⟩
    · exact .nil
    · rw [concat_eq_append] at hm hhead
      exact absurd hhead.symm (hstart hm)
  | append_singleton l' a ih =>
    rcases eq_nil_or_concat m with rfl | ⟨m', b, rfl⟩
    · exact absurd hhead (hstart hl)
    rw [concat_eq_append] at hm hhead ⊢
    obtain ⟨hl', hpa, hda⟩ := verifyFrom_concat.mp hl
    obtain ⟨hm', hpb, hdb⟩ := verifyFrom_concat.mp hm
    have hhash : links.hash a = links.hash b := by simpa using hhead
    have hdigest : links.digest a = links.digest b := by rw [hda, hdb, hhash]
    have hprevious := hbind.previous a b hdigest (hpa ▸ reached_headFrom hl')
      (hpb ▸ reached_headFrom hm')
    have hrest := ih hl' hm' (by rw [← hpa, ← hpb, hprevious])
    exact rel_append hrest (.cons ⟨hprevious, hhash, hdigest⟩ .nil)

theorem filter_eq_takeWhile (keep : α → Bool) :
    l.filter keep = l.takeWhile keep ++ (l.dropWhile keep).filter keep := by
  conv_lhs => rw [← takeWhile_append_dropWhile (p := keep) (l := l)]
  rw [filter_append, filter_eq_self.mpr fun _ ha => mem_takeWhile_imp ha]

theorem verifyFrom_takeWhile (keep : α → Bool) (hl : links.verifyFrom start l = true) :
    links.verifyFrom start (l.takeWhile keep) = true := by
  rw [← takeWhile_append_dropWhile (p := keep) (l := l)] at hl
  exact (verifyFrom_append.mp hl).1

/-- **Main result.** The records that are kept verify by themselves if none of
them comes after one that is not kept -/
theorem verifyFrom_filter {keep : α → Bool} (hl : links.verifyFrom start l = true)
    (hlate : ∀ a ∈ l.dropWhile keep, keep a = false) :
    links.verifyFrom start (l.filter keep) = true := by
  have hdropped : (l.dropWhile keep).filter keep = [] :=
    filter_eq_nil_iff.mpr fun a ha => by simp [hlate a ha]
  rw [filter_eq_takeWhile, hdropped, append_nil]
  exact verifyFrom_takeWhile keep hl

/-- and, where a digest binds the records, only then. -/
theorem dropWhile_of_verifyFrom_filter (hbind : links.Binding start) {keep : α → Bool}
    (hl : links.verifyFrom start l = true)
    (hkept : links.verifyFrom start (l.filter keep) = true) :
    ∀ a ∈ l.dropWhile keep, keep a = false := by
  by_contra hlate
  cases hdropped : (l.dropWhile keep).filter keep with
  | nil =>
    refine hlate fun a ha => ?_
    simpa using filter_eq_nil_iff.mp hdropped a ha
  | cons a rest =>
    obtain ⟨skipped, rest', hdrop, hskipped, hkeep, -⟩ := filter_eq_cons_iff.mp hdropped
    have htaken := verifyFrom_takeWhile keep hl
    -- the first late record points past the skipped ones, and to the last one kept
    have hfirst : links.verifyFrom start (l.takeWhile keep ++ skipped) = true ∧
        links.previous a = links.headFrom start (l.takeWhile keep ++ skipped) := by
      rw [← takeWhile_append_dropWhile (p := keep) (l := l), hdrop, ← append_assoc,
        verifyFrom_append, verifyFrom_cons] at hl
      exact ⟨hl.1, hl.2.1⟩
    have hpointed : links.previous a = links.headFrom start (l.takeWhile keep) := by
      rw [filter_eq_takeWhile, hdropped, verifyFrom_append, verifyFrom_cons] at hkept
      exact hkept.2.1
    have hsame := forall₂_of_headFrom_eq hbind htaken hfirst.1 (hpointed.symm.trans hfirst.2)
    have hnone : skipped = [] := by
      have hlength := hsame.length_eq
      rw [length_append] at hlength
      exact eq_nil_of_length_eq_zero (by omega)
    rw [hnone, nil_append] at hdrop
    have hhead := head?_dropWhile_not keep l
    rw [hdrop] at hhead
    simp [hkeep] at hhead

end HashLinks

end Lib
