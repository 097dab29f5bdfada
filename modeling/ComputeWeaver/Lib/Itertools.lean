/-
Lib.Itertools — the list-building loops of Python code:
`itertools.combinations`, the nested loop over one choice per level, and
comprehensions whose condition or element may raise.
-/
import Mathlib.Data.List.Forall2
import ComputeWeaver.Lib.Python

namespace Lib

open List

variable {α β ε : Type}

/-! ## `itertools.combinations` -/

/-- The `n`-element selections from `xs` in lexicographic order of their
positions. -/
def combinations : List α → Nat → List (List α)
  | _, 0 => [[]]
  | [], _ + 1 => []
  | x :: xs, n + 1 => (combinations xs n).map (x :: ·) ++ combinations xs (n + 1)

@[simp] theorem combinations_zero (xs : List α) : combinations xs 0 = [[]] := by
  cases xs <;> rfl

variable {xs : List α} {f : α → Except ε β} {ys : List β}

theorem mem_combinations {c : List α} {n : Nat} :
    c ∈ combinations xs n ↔ c.Sublist xs ∧ c.length = n := by
  induction xs generalizing n c with
  | nil => cases n <;> cases c <;> simp [combinations]
  | cons x xs ih =>
    cases n with
    | zero => cases c <;> simp
    | succ n =>
      simp only [combinations, mem_append, mem_map, ih]
      constructor
      · rintro (⟨tail, ⟨hsub, hlen⟩, rfl⟩ | ⟨hsub, hlen⟩)
        · exact ⟨hsub.cons_cons x, by simp [hlen]⟩
        · exact ⟨hsub.cons x, hlen⟩
      · rintro ⟨hsub, hlen⟩
        cases hsub with
        | cons _ hsub => exact .inr ⟨hsub, hlen⟩
        | cons_cons _ hsub => exact .inl ⟨_, ⟨hsub, by simpa using hlen⟩, rfl⟩

/-- Distinct elements have distinct selections. -/
theorem nodup_combinations (h : xs.Nodup) (n : Nat) : (combinations xs n).Nodup := by
  induction xs generalizing n with
  | nil => cases n <;> simp [combinations]
  | cons x xs ih =>
    obtain ⟨hx, hxs⟩ := nodup_cons.mp h
    cases n with
    | zero => simp
    | succ n =>
      refine List.Nodup.append ((ih hxs n).map (cons_injective)) (ih hxs (n + 1)) ?_
      intro c hhead htail
      obtain ⟨tail, -, rfl⟩ := mem_map.mp hhead
      exact hx ((mem_combinations.mp htail).1.subset mem_cons_self)

theorem combinations_map (f : α → β) (xs : List α) (n : Nat) :
    combinations (xs.map f) n = (combinations xs n).map (List.map f) := by
  induction xs generalizing n with
  | nil => cases n <;> simp [combinations]
  | cons x xs ih =>
    cases n with
    | zero => simp
    | succ n => simp [combinations, ih, Function.comp_def]

/-! ## One choice per level -/

/-- The nested loop that picks one element of each list, the first list
outermost. -/
def choices : List (List α) → List (List α)
  | [] => [[]]
  | options :: rest => options.flatMap fun c => (choices rest).map (c :: ·)

variable {levels : List (List α)} {x : α}

theorem mem_choices {path : List α} : path ∈ choices levels ↔ List.Forall₂ (· ∈ ·) path levels := by
  induction levels generalizing path with
  | nil => simp [choices]
  | cons options rest ih =>
    simp only [choices, mem_flatMap, mem_map, ih]
    constructor
    · rintro ⟨c, hc, tail, htail, rfl⟩
      exact .cons hc htail
    · rintro (_ | ⟨hc, htail⟩)
      exact ⟨_, hc, _, htail, rfl⟩

theorem nodup_choices (h : ∀ options ∈ levels, options.Nodup) : (choices levels).Nodup := by
  induction levels with
  | nil => simp [choices]
  | cons options rest ih =>
    obtain ⟨hoptions, hrest⟩ := forall_mem_cons.mp h
    have htails : (choices rest).Nodup := ih hrest
    refine nodup_flatMap.mpr ⟨fun c _ => htails.map (cons_injective), ?_⟩
    refine hoptions.imp fun {c d} hne => ?_
    refine disjoint_left.mpr fun path hc hd => ?_
    obtain ⟨tail, -, rfl⟩ := mem_map.mp hc
    obtain ⟨tail', -, heq⟩ := mem_map.mp hd
    exact hne (List.cons.inj heq).1.symm

/-- A level without options leaves no choice. -/
theorem choices_eq_nil (h : [] ∈ levels) : choices levels = [] := by
  induction levels with
  | nil => cases h
  | cons options rest ih =>
    rcases mem_cons.mp h with rfl | h
    · rfl
    · simp [choices, ih h]

/-! ## Comprehensions that may raise -/

/-- `[x for x in xs if p(x)]`. -/
def filterE (p : α → Except ε Bool) : List α → Except ε (List α)
  | [] => pure []
  | x :: xs => do
      let keep ← p x
      let rest ← filterE p xs
      pure (if keep then x :: rest else rest)

/-- `any(p(x) for x in xs)`: stops at the first that passes. -/
def anyE (p : α → Except ε Bool) : List α → Except ε Bool
  | [] => pure false
  | x :: xs => do if ← p x then pure true else anyE p xs

section

variable {p : α → Except ε Bool} {xs ys : List α}

theorem anyE_eq_false (h : anyE p xs = .ok false) : ∀ x ∈ xs, p x = .ok false := by
  induction xs with
  | nil => simp
  | cons x xs ih =>
    obtain ⟨b, hb, h⟩ := bind_eq_ok.mp h
    cases b with
    | true => cases h
    | false => exact forall_mem_cons.mpr ⟨hb, ih h⟩

theorem filterE_of_ok {q : α → Bool} (h : ∀ x ∈ xs, p x = .ok (q x)) :
    filterE p xs = .ok (xs.filter q) := by
  induction xs with
  | nil => rfl
  | cons x xs ih =>
    rw [filterE, h x mem_cons_self, ok_bind,
      ih fun y hy => h y (mem_cons_of_mem _ hy)]
    cases hq : q x <;> simp [hq]

/-- The comprehension returns only if every test did. -/
theorem filterE_tests (h : filterE p xs = .ok ys) : ∀ x ∈ xs, ∃ b, p x = .ok b := by
  induction xs generalizing ys with
  | nil => simp
  | cons x xs ih =>
    obtain ⟨b, hb, h⟩ := bind_eq_ok.mp h
    obtain ⟨rest, hrest, _⟩ := bind_eq_ok.mp h
    intro y hy
    rcases mem_cons.mp hy with rfl | hy
    · exact ⟨b, hb⟩
    · exact ih hrest y hy

/-- The comprehension keeps elements that passed their test, in order. -/
theorem filterE_kept (h : filterE p xs = .ok ys) : ys.Sublist xs ∧ ∀ y ∈ ys, p y = .ok true := by
  induction xs generalizing ys with
  | nil =>
    cases h
    simp
  | cons x xs ih =>
    obtain ⟨keep, hkeep, h⟩ := bind_eq_ok.mp h
    obtain ⟨rest, hrest, h⟩ := bind_eq_ok.mp h
    obtain ⟨hsub, hall⟩ := ih hrest
    cases h
    cases keep with
    | false => exact ⟨hsub.cons x, hall⟩
    | true => exact ⟨hsub.cons_cons x, forall_mem_cons.mpr ⟨hkeep, hall⟩⟩

/-- A renaming that keeps the outcome of every test keeps the comprehension. -/
theorem filterE_map {q : β → Except ε Bool} (f : α → β)
    (hpq : ∀ x ∈ xs, ∀ b, p x = .ok b → q (f x) = .ok b) (h : filterE p xs = .ok ys) :
    filterE q (xs.map f) = .ok (ys.map f) := by
  induction xs generalizing ys with
  | nil =>
    cases h
    rfl
  | cons x xs ih =>
    obtain ⟨hhead, htail⟩ := forall_mem_cons.mp hpq
    obtain ⟨keep, hkeep, h⟩ := bind_eq_ok.mp h
    obtain ⟨rest, hrest, h⟩ := bind_eq_ok.mp h
    cases h
    rw [map_cons, filterE, hhead keep hkeep, ok_bind, ih htail hrest]
    cases keep <;> rfl

end

/-- `[f(x) for x in xs]` returns exactly when every element does. -/
theorem mapM_eq_ok : xs.mapM f = .ok ys ↔ List.Forall₂ (fun x y => f x = .ok y) xs ys := by
  induction xs generalizing ys with
  | nil => cases ys <;> simp
  | cons x xs ih =>
    rw [mapM_cons, bind_eq_ok]
    constructor
    · rintro ⟨y, hy, h⟩
      obtain ⟨rest, hrest, h⟩ := bind_eq_ok.mp h
      rw [except_pure, Except.ok.injEq] at h
      subst h
      exact .cons hy (ih.mp hrest)
    · rintro (_ | ⟨hy, hrest⟩)
      exact ⟨_, hy, by rw [ih.mpr hrest]; rfl⟩

theorem mapM_eq_ok_zip (h : xs.mapM f = .ok ys) {xy : α × β} (hxy : xy ∈ xs.zip ys) :
    f xy.1 = .ok xy.2 :=
  (forall₂_iff_zip.mp (mapM_eq_ok.mp h)).2 hxy

theorem exists_of_forall₂ {R : α → β → Prop} (h : List.Forall₂ R xs ys) (hx : x ∈ xs) :
    ∃ y ∈ ys, R x y := by
  induction h with
  | nil => cases hx
  | cons hhead _ ih =>
    rcases mem_cons.mp hx with rfl | hx
    · exact ⟨_, mem_cons_self, hhead⟩
    · obtain ⟨y, hy, hxy⟩ := ih hx
      exact ⟨y, mem_cons_of_mem _ hy, hxy⟩

theorem exists_of_mapM_eq_ok (h : xs.mapM f = .ok ys) (hx : x ∈ xs) : ∃ y ∈ ys, f x = .ok y :=
  exists_of_forall₂ (mapM_eq_ok.mp h) hx

/-- Every element of the result was computed from one of the source. -/
theorem mem_of_mapM_eq_ok (h : xs.mapM f = .ok ys) {y : β} (hy : y ∈ ys) : ∃ x ∈ xs, f x = .ok y :=
  exists_of_forall₂ (List.Forall₂.flip (mapM_eq_ok.mp h)) hy

theorem mapM_ok (xs : List α) (h : ∀ x ∈ xs, ∃ y, f x = .ok y) : ∃ ys, xs.mapM f = .ok ys := by
  induction xs with
  | nil => exact ⟨[], by simp⟩
  | cons x xs ih =>
    obtain ⟨⟨y, hy⟩, hrest⟩ := forall_mem_cons.mp h
    obtain ⟨ys, hys⟩ := ih hrest
    exact ⟨y :: ys, by simp [mapM_cons, hy, hys]⟩

end Lib
