/-
Lib.Dict — insertion-ordered dictionaries.

Two layers. `assocGet` / `assocSet` work on bare association lists, which
is what nested document types need (a proof field cannot occur inside a
nested inductive). `Dict` wraps such a list with the proof that its keys
are pairwise distinct, so a value with a shadowed binding cannot be built.

`assocSet` overwrites IN PLACE and appends a new key at the end: that is
the order a Python dictionary iterates in, and it is why writing a key
back to its old value restores the very same dictionary (`set_get`).
-/
import Mathlib.Data.List.Nodup

namespace Lib

open List

universe u v

variable {K : Type u} {V : Type v} [DecidableEq K]

/-! ## Association lists -/

/-- The value bound to a key. -/
def assocGet : List (K × V) → K → Option V
  | [], _ => none
  | (k', v) :: rest, k => if k' = k then some v else assocGet rest k

/-- Bind a key: in place when it is bound already, at the end otherwise. -/
def assocSet : List (K × V) → K → V → List (K × V)
  | [], k, v => [(k, v)]
  | (k', w) :: rest, k, v =>
      if k' = k then (k', v) :: rest else (k', w) :: assocSet rest k v

theorem assocGet_assocSet (l : List (K × V)) (k k' : K) (v : V) :
    assocGet (assocSet l k v) k' = if k = k' then some v else assocGet l k' := by
  induction l with
  | nil => simp [assocSet, assocGet]
  | cons kv rest ih =>
    obtain ⟨k₀, w⟩ := kv
    by_cases h : k₀ = k
    · subst h
      by_cases h' : k₀ = k' <;> simp [assocSet, assocGet, h']
    by_cases h' : k₀ = k'
    · subst h'
      simp [assocSet, assocGet, h, Ne.symm h]
    · simp [assocSet, assocGet, h, h', ih]

theorem assocGet_eq_none_iff (l : List (K × V)) (k : K) :
    assocGet l k = none ↔ k ∉ l.map Prod.fst := by
  induction l with
  | nil => simp [assocGet]
  | cons kv rest ih =>
    obtain ⟨k₀, w⟩ := kv
    by_cases h : k₀ = k
    · simp [assocGet, h]
    · simp [assocGet, h, Ne.symm h, ih]

theorem assocSet_keys (l : List (K × V)) (k : K) (v : V) :
    (assocSet l k v).map Prod.fst =
      if k ∈ l.map Prod.fst then l.map Prod.fst else l.map Prod.fst ++ [k] := by
  induction l with
  | nil => simp [assocSet]
  | cons kv rest ih =>
    obtain ⟨k₀, w⟩ := kv
    by_cases h : k₀ = k
    · subst h; simp [assocSet]
    · simp only [assocSet, if_neg h, map_cons, ih, mem_cons, Ne.symm h, false_or]
      split <;> simp

variable {l : List (K × V)} {k : K} {v : V} {p : K × V → Bool}

theorem nodup_assocSet (h : (l.map Prod.fst).Nodup) (k : K) (v : V) :
    ((assocSet l k v).map Prod.fst).Nodup := by
  rw [assocSet_keys]
  split
  · exact h
  rename_i hk
  refine nodup_append.mpr ⟨h, by simp, ?_⟩
  intro a ha b hb hab
  rw [mem_singleton.mp hb] at hab
  exact hk (hab ▸ ha)

/-- Writing back the value a key already has changes nothing, not even the
order. -/
theorem assocSet_of_get (h : assocGet l k = some v) : assocSet l k v = l := by
  induction l with
  | nil => simp [assocGet] at h
  | cons kv rest ih =>
    obtain ⟨k₀, w⟩ := kv
    by_cases hk : k₀ = k
    · simp only [assocGet, if_pos hk, Option.some.injEq] at h
      simp [assocSet, hk, h]
    · simp only [assocGet, if_neg hk] at h
      simp [assocSet, hk, ih h]

/-- The second of two writes to one key wins. -/
theorem assocSet_assocSet (l : List (K × V)) (k : K) (v w : V) :
    assocSet (assocSet l k v) k w = assocSet l k w := by
  induction l with
  | nil => simp [assocSet]
  | cons kv rest ih =>
    obtain ⟨k₀, u⟩ := kv
    by_cases hk : k₀ = k
    · simp [assocSet, hk]
    · simp [assocSet, hk, ih]

/-- A selection that judges the old and the new binding of a key alike sees the
write if it takes them. -/
theorem filter_assocSet (hold : ∀ w, assocGet l k = some w → p (k, w) = p (k, v)) :
    (assocSet l k v).filter p = if p (k, v) then assocSet (l.filter p) k v else l.filter p := by
  induction l with
  | nil => cases hnew : p (k, v) <;> simp [assocSet, hnew]
  | cons kv rest ih =>
    obtain ⟨k₀, w⟩ := kv
    by_cases hk : k₀ = k
    · subst hk
      have hw := hold w (by simp [assocGet])
      cases hnew : p (k₀, v) <;> simp [assocSet, hw, hnew]
    · rw [assocGet, if_neg hk] at hold
      cases hnew : p (k, v) <;> cases hw : p (k₀, w) <;>
        simp [assocSet, hk, hw, hnew, ih hold]

theorem mem_of_assocGet (h : assocGet l k = some v) : (k, v) ∈ l := by
  induction l with
  | nil => simp [assocGet] at h
  | cons kv rest ih =>
    obtain ⟨k₀, w⟩ := kv
    by_cases hk : k₀ = k
    · subst hk
      simp only [assocGet, if_true, Option.some.injEq] at h
      simp [h]
    · simp only [assocGet, if_neg hk] at h
      exact mem_cons_of_mem _ (ih h)

/-- With distinct keys every binding is the one its key is looked up to. -/
theorem assocGet_of_mem (hnodup : (l.map Prod.fst).Nodup) (h : (k, v) ∈ l) :
    assocGet l k = some v := by
  induction l with
  | nil => simp at h
  | cons kv rest ih =>
    obtain ⟨k₀, w⟩ := kv
    rw [map_cons, nodup_cons] at hnodup
    rcases mem_cons.mp h with heq | hmem
    · cases heq
      simp [assocGet]
    have hk : k₀ ≠ k := by
      rintro rfl
      exact hnodup.1 (mem_map.mpr ⟨_, hmem, rfl⟩)
    rw [assocGet, if_neg hk]
    exact ih hnodup.2 hmem

/-! ## Dictionaries -/

/-- A dictionary: bindings in insertion order, one for each key. -/
@[ext] structure Dict (K : Type u) (V : Type v) where
  entries : List (K × V)
  nodup : (entries.map Prod.fst).Nodup

namespace Dict

/-- The dictionary without bindings. -/
def empty : Dict K V := ⟨[], by simp⟩

instance : Inhabited (Dict K V) := ⟨empty⟩

def get? (d : Dict K V) (k : K) : Option V := assocGet d.entries k

/-- `d[k] = v`. -/
def set (d : Dict K V) (k : K) (v : V) : Dict K V where
  entries := assocSet d.entries k v
  nodup := nodup_assocSet d.nodup k v

def contains (d : Dict K V) (k : K) : Bool := (d.get? k).isSome

def keys (d : Dict K V) : List K := d.entries.map Prod.fst

/-- Replace the value of a bound key; an unbound key stays unbound. -/
def modify (d : Dict K V) (k : K) (f : V → V) : Dict K V :=
  match d.get? k with
  | none => d
  | some v => d.set k (f v)

/-- The comprehension `{k: v for k, v in items}`: a later binding of a key
overwrites an earlier one. -/
def ofList (items : List (K × V)) : Dict K V :=
  items.foldl (fun d kv => d.set kv.1 kv.2) empty

@[simp] theorem get?_empty (k : K) : (empty : Dict K V).get? k = none := rfl

theorem get?_set (d : Dict K V) (k k' : K) (v : V) :
    (d.set k v).get? k' = if k = k' then some v else d.get? k' :=
  assocGet_assocSet d.entries k k' v

@[simp] theorem get?_set_self (d : Dict K V) (k : K) (v : V) :
    (d.set k v).get? k = some v := by simp [get?_set]

variable {k : K} {d : Dict K V} {v : V}

theorem get?_set_ne (d : Dict K V) {k' : K} (v : V) (h : k ≠ k') :
    (d.set k v).get? k' = d.get? k' := by simp [get?_set, h]

@[simp] theorem contains_eq_true : d.contains k = true ↔ ∃ v, d.get? k = some v := by
  simp [contains, Option.isSome_iff_exists]

theorem mem_entries_iff : (k, v) ∈ d.entries ↔ d.get? k = some v :=
  ⟨assocGet_of_mem d.nodup, mem_of_assocGet⟩

theorem mem_keys_iff : k ∈ d.keys ↔ ∃ v, d.get? k = some v := by
  rw [keys, mem_map]
  constructor
  · rintro ⟨⟨_, v⟩, hmem, rfl⟩
    exact ⟨v, mem_entries_iff.mp hmem⟩
  · rintro ⟨v, hv⟩
    exact ⟨(k, v), mem_entries_iff.mpr hv, rfl⟩

theorem set_get (h : d.get? k = some v) : d.set k v = d :=
  Dict.ext (assocSet_of_get h)

/-- A new key goes to the end. -/
theorem entries_set_of_none (h : d.get? k = none) (v : V) :
    (d.set k v).entries = d.entries ++ [(k, v)] := by
  have hentries : ∀ l : List (K × V), assocGet l k = none → assocSet l k v = l ++ [(k, v)] := by
    intro l
    induction l with
    | nil => exact fun _ => rfl
    | cons kv rest ih =>
      obtain ⟨k', w⟩ := kv
      intro hl
      rw [assocGet] at hl
      split at hl
      · cases hl
      · rename_i hne
        rw [assocSet, if_neg hne, ih hl]
        rfl
  exact hentries d.entries h

theorem set_set (d : Dict K V) (k : K) (v w : V) : (d.set k v).set k w = d.set k w :=
  Dict.ext (assocSet_assocSet d.entries k v w)

theorem get?_modify (d : Dict K V) (k k' : K) (f : V → V) :
    (d.modify k f).get? k' = if k = k' then (d.get? k').map f else d.get? k' := by
  unfold modify
  by_cases hk : k = k'
  · subst hk
    cases h : d.get? k <;> simp [h]
  · cases h : d.get? k <;> simp [get?_set, hk]

theorem keys_set_of_get? (w : V) (h : d.get? k = some v) : (d.set k w).keys = d.keys := by
  have hmem : k ∈ d.entries.map Prod.fst := by
    by_contra hne
    rw [get?, (assocGet_eq_none_iff _ _).mpr hne] at h
    cases h
  exact (assocSet_keys d.entries k w).trans (if_pos hmem)

@[simp] theorem keys_modify (d : Dict K V) (k : K) (f : V → V) : (d.modify k f).keys = d.keys := by
  unfold modify
  cases h : d.get? k with
  | none => rfl
  | some v => exact keys_set_of_get? _ h

/-- Dictionaries with the same keys in the same order and the same values
are equal. -/
theorem eq_of_get? {e : Dict K V} (hkeys : d.keys = e.keys) (hget : ∀ k, d.get? k = e.get? k) :
    d = e := by
  have hentries : ∀ l l' : List (K × V), (l.map Prod.fst).Nodup →
      l.map Prod.fst = l'.map Prod.fst → (∀ k, assocGet l k = assocGet l' k) → l = l' := by
    intro l
    induction l with
    | nil =>
      intro l' _ hkeys _
      exact (map_eq_nil_iff.mp hkeys.symm).symm
    | cons kv rest ih =>
      obtain ⟨k, v⟩ := kv
      rintro (_ | ⟨⟨k', v'⟩, rest'⟩) hnodup hkeys hget
      · cases hkeys
      · simp only [map_cons, List.cons.injEq] at hkeys
        obtain ⟨rfl, hrest⟩ := hkeys
        rw [map_cons, nodup_cons] at hnodup
        have hv : v = v' := by simpa [assocGet] using hget k
        subst hv
        rw [ih rest' hnodup.2 hrest]
        intro k'
        by_cases hk : k = k'
        · subst hk
          rw [(assocGet_eq_none_iff rest k).mpr hnodup.1,
            (assocGet_eq_none_iff rest' k).mpr (hrest ▸ hnodup.1)]
        · simpa [assocGet, hk] using hget k'
  exact Dict.ext (hentries d.entries e.entries d.nodup hkeys hget)

/-- Changes of bindings commute when the changes of a value do. -/
theorem modify_comm (d : Dict K V) (k k' : K) (f g : V → V) (hfg : ∀ v, f (g v) = g (f v)) :
    (d.modify k f).modify k' g = (d.modify k' g).modify k f := by
  refine eq_of_get? (by simp) ?_
  intro k₀
  simp only [get?_modify]
  split <;> split <;> simp [Function.comp_def, hfg]

/-- Undoing a change of one binding restores the dictionary. -/
theorem modify_modify_cancel (d : Dict K V) (k : K) (f g : V → V) (hfg : ∀ v, g (f v) = v) :
    (d.modify k f).modify k g = d := by
  cases h : d.get? k with
  | none => simp [modify, h]
  | some v =>
    have hf : d.modify k f = d.set k (f v) := by simp [modify, h]
    rw [hf, modify, get?_set_self]
    simp only [hfg, set_set]
    exact set_get h

/-- Changing a value neither adds nor removes a key. -/
@[simp] theorem contains_modify (d : Dict K V) (k k' : K) (f : V → V) :
    (d.modify k f).contains k' = d.contains k' := by
  simp only [contains, get?_modify]
  split <;> simp

theorem get?_foldl_set (items : List (K × V)) (d : Dict K V) (k : K) (h : ∀ kv ∈ items, kv.1 ≠ k) :
    (items.foldl (fun d kv => d.set kv.1 kv.2) d).get? k = d.get? k := by
  induction items generalizing d with
  | nil => rfl
  | cons kv rest ih =>
    rw [foldl_cons, ih _ fun kv' hkv' => h kv' (mem_cons_of_mem _ hkv'),
      get?_set_ne _ _ (h kv mem_cons_self)]

variable {items : List (K × V)}

/-- With distinct keys each assignment of a loop stays. -/
theorem get?_foldl_set_of_mem (hnodup : (items.map Prod.fst).Nodup) (h : (k, v) ∈ items)
    (d : Dict K V) : (items.foldl (fun d kv => d.set kv.1 kv.2) d).get? k = some v := by
  induction items generalizing d with
  | nil => simp at h
  | cons kv rest ih =>
    rw [map_cons, nodup_cons] at hnodup
    rw [foldl_cons]
    rcases mem_cons.mp h with rfl | h
    · rw [get?_foldl_set, get?_set_self]
      intro kv hkv heq
      exact hnodup.1 (mem_map.mpr ⟨kv, hkv, heq⟩)
    · exact ih hnodup.2 h _

/-- `d.update(e)`, and `{**d, **e}`. -/
def update (d e : Dict K V) : Dict K V := e.entries.foldl (fun d kv => d.set kv.1 kv.2) d

theorem get?_update (d e : Dict K V) (k : K) : (d.update e).get? k = (e.get? k).or (d.get? k) := by
  cases hk : e.get? k with
  | none =>
    refine get?_foldl_set _ _ _ ?_
    rintro ⟨k', v⟩ hmem rfl
    rw [mem_entries_iff.mp hmem] at hk
    cases hk
  | some v => exact get?_foldl_set_of_mem e.nodup (mem_entries_iff.mpr hk) d

/-- With distinct keys a comprehension binds each key to its own value. -/
theorem get?_ofList (hnodup : (items.map Prod.fst).Nodup) (h : (k, v) ∈ items) :
    (ofList items).get? k = some v :=
  get?_foldl_set_of_mem hnodup h empty

/-- With distinct keys a comprehension keeps its items in order. -/
theorem entries_ofList (hnodup : (items.map Prod.fst).Nodup) : (ofList items).entries = items := by
  have hfold : ∀ (l : List (K × V)) (d : Dict K V), (l.map Prod.fst).Nodup →
      (∀ kv ∈ l, d.get? kv.1 = none) →
      (l.foldl (fun d kv => d.set kv.1 kv.2) d).entries = d.entries ++ l := by
    intro l
    induction l with
    | nil => simp
    | cons kv rest ih =>
      intro d hl hnew
      obtain ⟨hhead, hrest⟩ := forall_mem_cons.mp hnew
      rw [map_cons, nodup_cons] at hl
      rw [foldl_cons, ih _ hl.2, entries_set_of_none hhead, append_assoc,
        singleton_append]
      intro kv' hkv'
      have hne : kv.1 ≠ kv'.1 := fun heq => hl.1 (mem_map.mpr ⟨kv', hkv', heq.symm⟩)
      rw [get?_set_ne _ _ hne]
      exact hrest kv' hkv'
  exact hfold items empty hnodup fun _ _ => rfl

/-- Renaming the keys of a comprehension injectively renames its bindings. -/
theorem get?_ofList_map {f : K → K} (hf : Function.Injective f) (items : List (K × V)) (k : K) :
    (ofList (items.map fun kv => (f kv.1, kv.2))).get? (f k) = (ofList items).get? k := by
  have hfold : ∀ (l : List (K × V)) (d e : Dict K V), (∀ k, d.get? (f k) = e.get? k) →
      ((l.map fun kv => (f kv.1, kv.2)).foldl (fun d kv => d.set kv.1 kv.2) d).get? (f k) =
        (l.foldl (fun d kv => d.set kv.1 kv.2) e).get? k := by
    intro l
    induction l with
    | nil => exact fun d e hde => hde k
    | cons kv rest ih =>
      intro d e hde
      refine ih _ _ ?_
      intro k'
      simp only [get?_set, hf.eq_iff, hde]
  exact hfold items empty empty fun _ => rfl

end Dict

end Lib
