/-
Lib.Python — the parts of Python's runtime that translated
code relies on: exceptions, aware and naive datetimes, indexing from either
end, slices, and stable sorting.

A fallible function returns `Except PyError α`. A function that can change
its state and STILL raise returns the pair of outcome and state instead, so
that no raising branch silently rolls back.

`datetime` comparison is partial: an aware and a naive value compare unequal,
and ordering them raises `TypeError`. An aware value is represented by its
UTC instant, since Python compares aware values by that instant alone.
-/
import Mathlib.Data.Finset.Basic
import Mathlib.Data.List.Sort
import Mathlib.Data.String.Basic
import ComputeWeaver.Lib.Dict

namespace Lib

open List

universe u v

/-! ## Exceptions -/

/-- The exception classes the code raises or handles by class. -/
inductive PyError where
  | valueError (message : String)
  | keyError (key : String)
  | permissionError (message : String)
  | runtimeError (message : String)
  | indexError
  | typeError
  | zeroDivisionError
  | invalidOperation
  | databaseError (name : String)
  | fileExistsError (message : String)
  | fileNotFoundError
  | jwtError (name : String)
  | overflowError
  | stopIteration
  | connectionError (message : String)
  | osError (name : String)
  | recursionError
  deriving DecidableEq, Repr

/-- `type(error).__name__`. -/
def PyError.className : PyError → String
  | valueError _ => "ValueError"
  | keyError _ => "KeyError"
  | permissionError _ => "PermissionError"
  | runtimeError _ => "RuntimeError"
  | indexError => "IndexError"
  | typeError => "TypeError"
  | zeroDivisionError => "ZeroDivisionError"
  | invalidOperation => "InvalidOperation"
  | databaseError name => name
  | fileExistsError _ => "FileExistsError"
  | fileNotFoundError => "FileNotFoundError"
  | jwtError name => name
  | overflowError => "OverflowError"
  | stopIteration => "StopIteration"
  | connectionError _ => "ConnectionError"
  | osError name => name
  | recursionError => "RecursionError"

section

variable {ε : Type u} {α β : Type v}

variable {x : Except ε α} {f : α → Except ε β}
  {b : β} {xs : List α} {e : ε}

/-- A bind succeeds exactly when both of its parts do. -/
theorem bind_eq_ok : (x >>= f) = .ok b ↔ ∃ a, x = .ok a ∧ f a = .ok b := by
  cases x with
  | error e | ok a => simp [bind, Except.bind]

/-- What follows only matters where the first part succeeds. -/
theorem except_bind_congr {g : α → Except ε β} (h : ∀ a, x = .ok a → f a = g a) :
    x >>= f = x >>= g := by
  cases x with
  | error e => rfl
  | ok a => exact h a rfl

/-- A loop of checks succeeds exactly when every check does. -/
theorem forM_eq_ok {f : α → Except ε PUnit} : xs.forM f = .ok ⟨⟩ ↔ ∀ x ∈ xs, f x = .ok ⟨⟩ := by
  induction xs with
  | nil => exact ⟨fun _ _ h => absurd h not_mem_nil, fun _ => rfl⟩
  | cons x rest ih =>
    show (f x >>= fun _ => rest.forM f) = _ ↔ _
    rw [bind_eq_ok, forall_mem_cons]
    exact ⟨fun ⟨_, hx, hrest⟩ => ⟨hx, ih.mp hrest⟩, fun h => ⟨⟨⟩, h.1, ih.mpr h.2⟩⟩

/-- A bind fails where one of its parts does. -/
theorem bind_eq_error :
    (x >>= f) = .error e ↔ x = .error e ∨ ∃ a, x = .ok a ∧ f a = .error e := by
  cases x with
  | error e' | ok a => simp [bind, Except.bind]

@[simp] theorem ok_bind (a : α) (f : α → Except ε β) : (Except.ok a >>= f) = f a := rfl

@[simp] theorem error_bind (e : ε) (f : α → Except ε β) :
    ((Except.error e : Except ε α) >>= f) = .error e := rfl

@[simp] theorem except_pure (a : α) : (pure a : Except ε α) = .ok a := rfl

@[simp] theorem except_throw (e : ε) : (throw e : Except ε α) = .error e := rfl

/-- Every step of a comprehension returns, so it does. -/
theorem except_mapM_map {γ : Type v} {pick : γ → α} (result : γ → β) {xs : List γ}
    (h : ∀ x ∈ xs, f (pick x) = .ok (result x)) : (xs.map pick).mapM f = .ok (xs.map result) := by
  induction xs with
  | nil => rfl
  | cons x rest ih =>
    rw [map_cons, mapM_cons, h x mem_cons_self,
      ih fun y hy => h y (mem_cons_of_mem _ hy)]
    rfl

theorem except_mapM_eq (result : α → β) (h : ∀ x ∈ xs, f x = .ok (result x)) :
    xs.mapM f = .ok (xs.map result) := by
  have hmapM := @except_mapM_map ε α β f α id result xs h
  rwa [List.map_id] at hmapM

theorem map_eq_ok {f : α → β} : f <$> x = .ok b ↔ ∃ a, x = .ok a ∧ f a = b := by
  cases x with
  | error e => simp [Functor.map, Except.map]
  | ok a => simp

/-- The exception an outcome raises. -/
def raised? : Except ε α → Option ε
  | .ok _ => none
  | .error e => some e

theorem raised?_eq_some : raised? x = some e ↔ x = .error e := by
  cases x <;> simp [raised?]

theorem toOption_eq_some {a : α} : x.toOption = some a ↔ x = .ok a := by
  cases x <;> simp [Except.toOption]

end

/-! ## Datetimes -/

/-- A `datetime` in microseconds: without a timezone, or as a UTC instant. -/
inductive DateTime where
  | naive (micros : Int)
  | aware (micros : Int)
  deriving DecidableEq, Repr

namespace DateTime

/-- `t.tzinfo is None`. -/
def isNaive : DateTime → Bool
  | naive _ => true
  | aware _ => false

def micros : DateTime → Int
  | naive m => m
  | aware m => m

/-- Both aware or both naive: the pairs that Python can order. -/
def Comparable (a b : DateTime) : Prop := a.isNaive = b.isNaive

instance (a b : DateTime) : Decidable (Comparable a b) :=
  inferInstanceAs (Decidable (a.isNaive = b.isNaive))

/-- `a < b`. -/
def lt (a b : DateTime) : Except PyError Bool :=
  if Comparable a b then pure (decide (a.micros < b.micros)) else throw .typeError

/-- `a >= b`. -/
def ge (a b : DateTime) : Except PyError Bool :=
  if Comparable a b then pure (decide (b.micros ≤ a.micros)) else throw .typeError

variable {a b : DateTime} {c : Bool}

theorem lt_eq_ok : a.lt b = .ok c ↔ Comparable a b ∧ c = decide (a.micros < b.micros) := by
  unfold lt
  split
  · rename_i h; simp [h, eq_comm]
  · rename_i h; simp [h]

theorem ge_eq_ok : a.ge b = .ok c ↔ Comparable a b ∧ c = decide (b.micros ≤ a.micros) := by
  unfold ge
  split
  · rename_i h; simp [h, eq_comm]
  · rename_i h; simp [h]

end DateTime

/-! ## Sequences -/

section

variable {α : Type u}

/-- The element `xs[i]` names, if any: a negative index counts from the
end. -/
def pyGet? (xs : List α) (i : Int) : Option α :=
  if 0 ≤ i then xs[i.toNat]?
  else if 0 ≤ i + xs.length then xs[(i + xs.length).toNat]?
  else none

/-- `xs[i]`. -/
def pyIndex (xs : List α) (i : Int) : Except PyError α :=
  match pyGet? xs i with
  | some x => pure x
  | none => throw .indexError

/-- `xs[:n]`: a negative bound drops from the end. -/
def pyTake (xs : List α) (n : Int) : List α :=
  if n < 0 then xs.take (n + xs.length).toNat else xs.take n.toNat

variable {xs : List α} {i : Int} {x : α}

theorem pyIndex_eq_ok : pyIndex xs i = .ok x ↔ pyGet? xs i = some x := by
  unfold pyIndex
  cases pyGet? xs i <;> simp

theorem pyIndex_ok (h0 : 0 ≤ i) (h : i < xs.length) : ∃ x, pyIndex xs i = .ok x := by
  have hlt : i.toNat < xs.length := by omega
  exact ⟨xs[i.toNat], pyIndex_eq_ok.mpr (by rw [pyGet?, if_pos h0, List.getElem?_eq_getElem hlt])⟩

@[simp] theorem pyGet?_natCast (xs : List α) (i : Nat) : pyGet? xs (i : Int) = xs[i]? := by
  simp [pyGet?]

/-- There is no element past the end. -/
theorem pyGet?_of_length_le (xs : List α) (h : (xs.length : Int) ≤ i) : pyGet? xs i = none := by
  have h0 : 0 ≤ i := by omega
  rw [pyGet?, if_pos h0, getElem?_eq_none_iff]
  omega

theorem pyGet?_mem (h : pyGet? xs i = some x) : x ∈ xs := by
  unfold pyGet? at h
  split at h
  · exact mem_of_getElem? h
  · split at h
    · exact mem_of_getElem? h
    · simp at h

theorem pyIndex_map {β : Type u} (f : α → β) (xs : List α) (i : Int) :
    pyIndex (xs.map f) i = f <$> pyIndex xs i := by
  have hget : pyGet? (xs.map f) i = (pyGet? xs i).map f := by
    unfold pyGet?
    rw [length_map]
    split
    · exact getElem?_map
    · split
      · exact getElem?_map
      · rfl
  rw [pyIndex, hget, pyIndex]
  cases pyGet? xs i <;> rfl

theorem pyTake_map {β : Type u} (f : α → β) (xs : List α) (n : Int) :
    pyTake (xs.map f) n = (pyTake xs n).map f := by
  unfold pyTake
  split <;> simp [map_take]

theorem pyTake_sublist (xs : List α) (n : Int) : (pyTake xs n).Sublist xs := by
  unfold pyTake
  split <;> exact take_sublist _ _

/-- `sorted(xs, key=...)` for the order `le` on the keys. Insertion sort is
stable, as Python's sort is, and a stable sort is unique. -/
def pySorted (le : α → α → Bool) (xs : List α) : List α :=
  xs.insertionSort (fun a b => le a b = true)

@[simp] theorem mem_pySorted {le : α → α → Bool} : x ∈ pySorted le xs ↔ x ∈ xs :=
  mem_insertionSort _

theorem pySorted_perm (le : α → α → Bool) (xs : List α) : (pySorted le xs).Perm xs :=
  perm_insertionSort _ _

/-- Only the order among the elements themselves matters. -/
theorem pySorted_congr {le le' : α → α → Bool} (h : ∀ a ∈ xs, ∀ b ∈ xs, le a b = le' a b) :
    pySorted le xs = pySorted le' xs := by
  have hsort := map_insertionSort (r := fun a b => le a b = true)
    (s := fun a b => le' a b = true) id xs (fun a ha b hb => by simp [h a ha b hb])
  simpa [pySorted] using hsort

theorem pairwise_pySorted [LinearOrder α] (xs : List α) :
    (pySorted (fun a b => decide (a ≤ b)) xs).Pairwise (· ≤ ·) := by
  simpa [pySorted] using pairwise_insertionSort (fun a b : α => decide (a ≤ b) = true) xs

/-- Only one arrangement of distinct elements is in order. -/
theorem pySorted_eq_of_perm [LinearOrder α] {ys : List α} (hperm : xs.Perm ys)
    (hsorted : ys.Pairwise (· ≤ ·)) : pySorted (fun a b => decide (a ≤ b)) xs = ys :=
  List.Perm.eq_of_pairwise' (pairwise_pySorted xs) hsorted ((pySorted_perm _ xs).trans hperm)

/-- `sorted(s)` of a set: the order of its elements does not matter. -/
def pySortedSet [LinearOrder α] (s : Finset α) : List α :=
  Quot.liftOn s.val (fun xs => xs.insertionSort (· ≤ ·)) fun xs ys h =>
    List.Perm.eq_of_pairwise' (List.pairwise_insertionSort (· ≤ ·) xs)
      (List.pairwise_insertionSort (· ≤ ·) ys)
      ((List.perm_insertionSort _ xs).trans (h.trans (List.perm_insertionSort _ ys).symm))

@[simp] theorem mem_pySortedSet [LinearOrder α] {s : Finset α} : x ∈ pySortedSet s ↔ x ∈ s := by
  obtain ⟨⟨xs⟩, hxs⟩ := s
  exact mem_insertionSort _

theorem pySorted_map {β : Type u} (f : α → β) (le : α → α → Bool) (le' : β → β → Bool)
    (h : ∀ a b, le' (f a) (f b) = le a b) (xs : List α) :
    pySorted le' (xs.map f) = (pySorted le xs).map f := by
  unfold pySorted
  rw [map_insertionSort (r := fun a b => le a b = true) (s := fun a b => le' a b = true) f xs]
  intro a _ b _
  rw [h]

end

/-! ## Strings -/

/-- `c.isspace()`. -/
def pyIsSpace (c : Char) : Bool :=
  let n := c.toNat
  (9 ≤ n && n ≤ 13) || (28 ≤ n && n ≤ 32) || n = 0x85 || n = 0xa0 || n = 0x1680 ||
    (0x2000 ≤ n && n ≤ 0x200a) || n = 0x2028 || n = 0x2029 || n = 0x202f || n = 0x205f ||
    n = 0x3000

/-- `s.strip()`. -/
def pyStrip (s : String) : String :=
  String.ofList ((s.toList.dropWhile pyIsSpace).reverse.dropWhile pyIsSpace).reverse

namespace Dict

/-- `d[k]` where the key must be there. -/
def getItem {K : Type u} {V : Type v} [DecidableEq K] (d : Dict K V) (k : K) (name : String) :
    Except PyError V :=
  match d.get? k with
  | some v => pure v
  | none => throw (.keyError name)

theorem getItem_eq_ok {K : Type u} {V : Type v} [DecidableEq K] {d : Dict K V} {k : K}
    {name : String} {v : V} : d.getItem k name = .ok v ↔ d.get? k = some v := by
  unfold getItem
  cases d.get? k <;> simp

end Dict

end Lib
