/-
Lib.Json — JSON documents: which values are JSON, when two of
them are the same, and what a round trip through text makes of a value.

A dictionary is an association list, so two lists in different order are the
same dictionary. `Value.Rel` relates two values leaf by leaf: lists item by
item, dictionaries key by key (`rel_dict_iff`). With equality on the leaves
it says that two values have the same canonical text (`Same`). `pyEq` is Python's
`==`, which compares numbers of different types.

The recursions run over the nested type, hence three functions each. Facts
about dictionaries are stated through `assocGet` and hold for dictionaries
whose keys are distinct.
-/
import ComputeWeaver.Lib.Value

namespace Lib

namespace Value

/-! ## Relations on whole values -/

mutual

def Rel (leaf : Value → Value → Prop) : Value → Value → Prop
  | list items, other => ∃ items', other = list items' ∧ RelList leaf items items'
  | dict items, other => ∃ items', other = dict items' ∧ RelItems leaf items items' ∧
      ∀ k, k ∈ items'.map Prod.fst → k ∈ items.map Prod.fst
  | value, other => leaf value other

def RelList (leaf : Value → Value → Prop) : List Value → List Value → Prop
  | [], others => others = []
  | item :: rest, others => ∃ item' rest', others = item' :: rest' ∧ item.Rel leaf item' ∧
      RelList leaf rest rest'

def RelItems (leaf : Value → Value → Prop) : List (String × Value) → List (String × Value) → Prop
  | [], _ => True
  | (k, item) :: rest, others =>
      (∃ item', assocGet others k = some item' ∧ item.Rel leaf item') ∧ RelItems leaf rest others

end

section

variable {rel : Value → Value → Prop} {items items' : List (String × Value)}

theorem relItems_iff (hnodup : (items.map Prod.fst).Nodup) :
    RelItems rel items items' ↔ ∀ k value, assocGet items k = some value →
      ∃ value', assocGet items' k = some value' ∧ value.Rel rel value' := by
  induction items with
  | nil => simp [RelItems, assocGet]
  | cons kv rest ih =>
    obtain ⟨k₀, item⟩ := kv
    rw [List.map_cons, List.nodup_cons] at hnodup
    rw [RelItems, ih hnodup.2]
    constructor
    · rintro ⟨hhead, hrest⟩ k value hget
      by_cases hk : k₀ = k
      · subst hk
        simp only [assocGet, if_true, Option.some.injEq] at hget
        exact hget ▸ hhead
      · simp only [assocGet, if_neg hk] at hget
        exact hrest k value hget
    · intro h
      refine ⟨h k₀ item (by simp [assocGet]), fun k value hget => h k value ?_⟩
      have hk : k₀ ≠ k := by
        rintro rfl
        rw [(assocGet_eq_none_iff rest k₀).mpr hnodup.1] at hget
        cases hget
      rw [assocGet, if_neg hk, hget]

/-- Two dictionaries agree when they do under every key. -/
theorem rel_dict_iff (hnodup : (items.map Prod.fst).Nodup) :
    (dict items).Rel rel (dict items') ↔
      ∀ k, Option.Rel (Rel rel) (assocGet items k) (assocGet items' k) := by
  simp only [Rel, dict.injEq, exists_eq_left', relItems_iff hnodup]
  have hkeys : ∀ k, assocGet items k = Option.none →
      (k ∈ items'.map Prod.fst → k ∈ items.map Prod.fst) → assocGet items' k = Option.none := by
    intro k hnone himp
    rw [assocGet_eq_none_iff] at hnone ⊢
    exact fun hmem => hnone (himp hmem)
  constructor
  · rintro ⟨hitems, hsub⟩ k
    cases hget : assocGet items k with
    | none =>
      rw [hkeys k hget (hsub k)]
      exact .none
    | some value =>
      obtain ⟨value', hget', hrel⟩ := hitems k value hget
      rw [hget']
      exact .some hrel
  · intro h
    constructor
    · intro k value hget
      have hk := h k
      rw [hget] at hk
      cases hother : assocGet items' k with
      | none =>
        rw [hother] at hk
        cases hk
      | some value' =>
        rw [hother] at hk
        cases hk with
        | some hrel => exact ⟨value', rfl, hrel⟩
    · intro k hmem
      by_contra hnot
      have hk := h k
      rw [(assocGet_eq_none_iff items k).mpr hnot] at hk
      cases hother : assocGet items' k with
      | none => exact (assocGet_eq_none_iff items' k).mp hother hmem
      | some value' =>
        rw [hother] at hk
        cases hk

end

/-! ## Structural functions -/

/-- The function works on lists item by item and on dictionaries key by key;
it may reorder a dictionary. -/
structure Structural (f : Value → Value) : Prop where
  list : ∀ items, f (list items) = Value.list (items.map f)
  dict : ∀ items, ∃ items', f (dict items) = Value.dict items' ∧
    ∀ k, assocGet items' k = (assocGet items k).map f

/-! ## JSON values -/

/-- The two values have the same canonical JSON text. -/
def Same (value other : Value) : Prop := value.Rel Eq other

/-- Two documents with the same fields are the same when the fields are. -/
theorem same_fields {items items' : List (String × Value)}
    (hkeys : items.map Prod.fst = items'.map Prod.fst) :
    Same (dict items) (dict items') ↔ RelItems Eq items items' := by
  simp only [Same, Rel, dict.injEq, exists_eq_left', and_iff_left_iff_imp]
  intro _ k hk
  exact hkeys ▸ hk

@[simp] theorem rel_str {s s' : String} : (str s).Rel Eq (str s') ↔ s = s' := by simp [Rel]

@[simp] theorem rel_int {i i' : Int} : (int i).Rel Eq (int i') ↔ i = i' := by simp [Rel]

@[simp] theorem rel_time {t t' : DateTime} : (time t).Rel Eq (time t') ↔ t = t' := by simp [Rel]

/-- The number a value is, a boolean being 0 or 1. -/
def number? : Value → Option Rat
  | bool b => some (if b then 1 else 0)
  | int i => some i
  | float q => some q
  | decimal q => some q
  | _ => Option.none

/-- `value == other` for leaves. -/
def leafEq : Value → Value → Bool
  | none, none => true
  | str s, str s' => s = s'
  | time t, time t' => t = t'
  | value, other => match value.number?, other.number? with
      | some q, some q' => q = q'
      | _, _ => false

mutual

/-- `value == other`, as a test. -/
def pyEq : Value → Value → Bool
  | list items, list items' => pyEqList items items'
  | dict items, dict items' => items.length = items'.length && pyEqItems items items'
  | value, other => leafEq value other

def pyEqList : List Value → List Value → Bool
  | [], [] => true
  | item :: rest, item' :: rest' => item.pyEq item' && pyEqList rest rest'
  | _, _ => false

def pyEqItems : List (String × Value) → List (String × Value) → Bool
  | [], _ => true
  | (k, item) :: rest, others => (match assocGet others k with
      | some item' => item.pyEq item'
      | Option.none => false) && pyEqItems rest others

end

mutual

/-- `json.dumps(value)` raises for a `Decimal` and for a `datetime`. -/
def serializable : Value → Bool
  | decimal _ => false
  | time _ => false
  | list items => serializableList items
  | dict items => serializableItems items
  | _ => true

def serializableList : List Value → Bool
  | [] => true
  | item :: rest => item.serializable && serializableList rest

def serializableItems : List (String × Value) → Bool
  | [] => true
  | (_, item) :: rest => item.serializable && serializableItems rest

end

mutual

/-- `json.loads(json.dumps(value, default=str))`. -/
def jsonSafe (env : PyEnv) : Value → Value
  | decimal q => str (env.str (decimal q))
  | time t => str (env.str (time t))
  | list items => list (jsonSafeList env items)
  | dict items => dict (jsonSafeItems env items)
  | value => value

def jsonSafeList (env : PyEnv) : List Value → List Value
  | [] => []
  | item :: rest => item.jsonSafe env :: jsonSafeList env rest

def jsonSafeItems (env : PyEnv) : List (String × Value) → List (String × Value)
  | [] => []
  | (k, item) :: rest => (k, item.jsonSafe env) :: jsonSafeItems env rest

end

theorem assocGet_jsonSafeItems (env : PyEnv) (items : List (String × Value)) (k : String) :
    assocGet (jsonSafeItems env items) k = (assocGet items k).map (jsonSafe env) := by
  induction items with
  | nil => rfl
  | cons kv rest ih =>
    obtain ⟨k₀, item⟩ := kv
    rw [jsonSafeItems, assocGet, assocGet]
    split
    · rfl
    · exact ih

mutual

/-- A value that `json.dumps` takes as it is survives the round trip. -/
theorem jsonSafe_of_serializable (env : PyEnv) :
    ∀ value : Value, value.serializable = true → value.jsonSafe env = value
  | none, _ => rfl
  | bool _, _ => rfl
  | int _, _ => rfl
  | float _, _ => rfl
  | str _, _ => rfl
  | list items, h => by rw [jsonSafe, jsonSafeList_of_serializable env items h]
  | dict items, h => by rw [jsonSafe, jsonSafeItems_of_serializable env items h]

theorem jsonSafeList_of_serializable (env : PyEnv) :
    ∀ items : List Value, serializableList items = true → jsonSafeList env items = items
  | [], _ => rfl
  | item :: rest, h => by
      rw [serializableList, Bool.and_eq_true] at h
      rw [jsonSafeList, jsonSafe_of_serializable env item h.1,
        jsonSafeList_of_serializable env rest h.2]

theorem jsonSafeItems_of_serializable (env : PyEnv) :
    ∀ items : List (String × Value), serializableItems items = true →
      jsonSafeItems env items = items
  | [], _ => rfl
  | (k, item) :: rest, h => by
      rw [serializableItems, Bool.and_eq_true] at h
      rw [jsonSafeItems, jsonSafe_of_serializable env item h.1,
        jsonSafeItems_of_serializable env rest h.2]

end

mutual

/-- What the round trip yields, `json.dumps` takes. -/
theorem serializable_jsonSafe (env : PyEnv) : ∀ value : Value,
    (value.jsonSafe env).serializable = true
  | none => rfl
  | bool _ => rfl
  | int _ => rfl
  | float _ => rfl
  | decimal _ => rfl
  | str _ => rfl
  | time _ => rfl
  | list items => serializable_jsonSafeList env items
  | dict items => serializable_jsonSafeItems env items

theorem serializable_jsonSafeList (env : PyEnv) : ∀ items : List Value,
    serializableList (jsonSafeList env items) = true
  | [] => rfl
  | item :: rest => by
      rw [jsonSafeList, serializableList, serializable_jsonSafe env item,
        serializable_jsonSafeList env rest]
      rfl

theorem serializable_jsonSafeItems (env : PyEnv) : ∀ items : List (String × Value),
    serializableItems (jsonSafeItems env items) = true
  | [] => rfl
  | (k, item) :: rest => by
      rw [jsonSafeItems, serializableItems, serializable_jsonSafe env item,
        serializable_jsonSafeItems env rest]
      rfl

end

end Value

end Lib
