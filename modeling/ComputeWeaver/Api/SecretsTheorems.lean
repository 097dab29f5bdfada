/-
Api.SecretsTheorems — what `reject_inline_secrets` refuses
(`apps/api/main.py`).

The recursion follows the value, one call inside the other for each level, and a
value that is nested deeper than the stack has room for raises a `RecursionError`
whatever its keys are (`nested_lists_raise`).
-/
import ComputeWeaver.Api.Governance

namespace ComputeWeaver.Api

open Lib List

variable {env : PyEnv} {r s : Except PyError Unit} {P Q : Prop}

/-- Some dictionary, at some depth, has a prohibited key. -/
inductive HasSecret (env : PyEnv) : Value → Prop
  | key {items k v} (hmem : (k, v) ∈ items) (hkey : isSecretKey env k) : HasSecret env (.dict items)
  | item {items k v} (hmem : (k, v) ∈ items) (h : HasSecret env v) : HasSecret env (.dict items)
  | element {items v} (hmem : v ∈ items) (h : HasSecret env v) : HasSecret env (.list items)

theorem hasSecret_dict_iff {items : Document} : HasSecret env (.dict items) ↔
    ∃ item ∈ items, isSecretKey env item.1 ∨ HasSecret env item.2 := by
  constructor
  · rintro (⟨hmem, hkey⟩ | ⟨hmem, h⟩)
    · exact ⟨_, hmem, .inl hkey⟩
    · exact ⟨_, hmem, .inr h⟩
  · rintro ⟨item, hmem, hkey | h⟩
    · exact .key hmem hkey
    · exact .item hmem h

theorem hasSecret_list_iff {items : List Value} : HasSecret env (.list items) ↔
    ∃ item ∈ items, HasSecret env item := by
  constructor
  · rintro (_ | _ | ⟨hmem, h⟩)
    exact ⟨_, hmem, h⟩
  · rintro ⟨item, hmem, h⟩
    exact .element hmem h

mutual

/-- The calls that the recursion makes one inside the other. -/
def nesting : Value → Nat
  | .dict items => nestingItems items + 1
  | .list items => nestingList items + 1
  | _ => 1

def nestingItems : Document → Nat
  | [] => 0
  | (_, item) :: rest => max (nesting item) (nestingItems rest)

def nestingList : List Value → Nat
  | [] => 0
  | item :: rest => max (nesting item) (nestingList rest)

end

/-- The check raises a `ValueError` if `P` holds, and passes otherwise. -/
def Refuses (r : Except PyError Unit) (P : Prop) : Prop :=
  (∃ message, r = .error (.valueError message)) ∧ P ∨ r = .ok () ∧ ¬P

theorem Refuses.then (hr : Refuses r P) (hs : Refuses s Q) : Refuses (do r; s) (P ∨ Q) := by
  rcases hr with ⟨⟨message, rfl⟩, hP⟩ | ⟨rfl, hP⟩
  · exact .inl ⟨⟨message, rfl⟩, .inl hP⟩
  · simpa [Refuses, hP] using hs

mutual

theorem refuses_value (path : String) : ∀ (value : Value) (room : Nat), nesting value ≤ room →
    Refuses (rejectInlineSecrets env room path value) (HasSecret env value)
  | .dict items, room, hroom => by
    rw [nesting] at hroom
    rw [hasSecret_dict_iff, rejectInlineSecrets, if_neg (by omega)]
    exact refuses_items path items (room - 1) (by omega)
  | .list items, room, hroom => by
    rw [nesting] at hroom
    rw [hasSecret_list_iff, rejectInlineSecrets, if_neg (by omega)]
    exact refuses_list path 0 items (room - 1) (by omega)
  | .none, room, hroom | .bool _, room, hroom | .int _, room, hroom | .float _, room, hroom
  | .decimal _, room, hroom | .str _, room, hroom | .time _, room, hroom =>
    .inr ⟨if_neg (Nat.one_le_iff_ne_zero.mp hroom), by rintro ⟨⟩⟩

theorem refuses_items (path : String) : ∀ (items : Document) (room : Nat),
    nestingItems items ≤ room → Refuses (rejectSecretItems env room path items)
      (∃ item ∈ items, isSecretKey env item.1 ∨ HasSecret env item.2)
  | [], _, _ => .inr ⟨rfl, by simp⟩
  | (key, item) :: rest, room, hroom => by
    obtain ⟨hitem, hrest⟩ := max_le_iff.mp hroom
    by_cases hkey : isSecretKey env key
    · refine .inl ⟨?_, _, mem_cons_self, .inl hkey⟩
      rw [rejectSecretItems, if_pos hkey]
      exact ⟨_, rfl⟩
    · have h := (refuses_value (path ++ "." ++ key) item room hitem).then
        (refuses_items path rest room hrest)
      simpa [rejectSecretItems, hkey] using h

theorem refuses_list (path : String) (index : Nat) : ∀ (items : List Value) (room : Nat),
    nestingList items ≤ room → Refuses (rejectSecretList env room path index items)
      (∃ item ∈ items, HasSecret env item)
  | [], _, _ => .inr ⟨rfl, by simp⟩
  | item :: rest, room, hroom => by
    obtain ⟨hitem, hrest⟩ := max_le_iff.mp hroom
    have h := (refuses_value (path ++ "[" ++ toString index ++ "]") item room hitem).then
      (refuses_list path (index + 1) rest room hrest)
    simpa [rejectSecretList] using h

end

/-- **Main result.** On a value that is not nested deeper than the stack has room
for, the check raises exactly if a dictionary at some depth has a prohibited key, and
returns otherwise. -/
theorem rejectInlineSecrets_iff (env : PyEnv) (room : Nat) (path : String) (value : Value)
    (hroom : nesting value ≤ room) :
    ((∃ message, rejectInlineSecrets env room path value = .error (.valueError message)) ↔
      HasSecret env value) ∧
    (rejectInlineSecrets env room path value = .ok () ↔ ¬HasSecret env value) := by
  have h : Refuses (rejectInlineSecrets env room path value) _ :=
    refuses_value path value room hroom
  rcases h with ⟨⟨message, hr⟩, h⟩ | ⟨hr, h⟩ <;> simp [hr, h]

/-- A token two lists and a dictionary deep. -/
def hiddenToken : Value := .list [.list [.dict [("site", .str "a"), ("api-token", .str "x")]]]

theorem rejectInlineSecrets_iff_hiddenToken :
    nesting hiddenToken ≤ PyEnv.plain.recursionLimit ∧
    ∃ message, rejectInlineSecrets .plain PyEnv.plain.recursionLimit "body" hiddenToken =
      .error (.valueError message) := by
  refine ⟨by decide +kernel, (rejectInlineSecrets_iff .plain PyEnv.plain.recursionLimit "body"
    hiddenToken (by decide +kernel)).1.mpr ?_⟩
  exact .element mem_cons_self (.element mem_cons_self
    (.key (mem_cons_of_mem _ mem_cons_self) (by decide +kernel)))

/-! ## Values nested too deep -/

/-- An empty list in a list in a list, and so on. -/
def nestedLists : Nat → Value
  | 0 => .list []
  | n + 1 => .list [nestedLists n]

theorem not_hasSecret_nestedLists (n : Nat) : ¬HasSecret env (nestedLists n) := by
  induction n with
  | zero => simp [nestedLists, hasSecret_list_iff]
  | succ n ih => simpa [nestedLists, hasSecret_list_iff] using ih

theorem rejectInlineSecrets_nestedLists (env : PyEnv) (room : Nat) (path : String) :
    rejectInlineSecrets env room path (nestedLists room) = .error .recursionError := by
  induction room generalizing path with
  | zero => rfl
  | succ room ih =>
    rw [nestedLists, rejectInlineSecrets, if_neg room.succ_ne_zero, rejectSecretList,
      Nat.add_sub_cancel, ih]
    rfl

/-- As many lists in one another as the stack has room for calls: no key at all, and
the check raises. -/
theorem nested_lists_raise :
    ¬HasSecret .plain (nestedLists PyEnv.plain.recursionLimit) ∧
    rejectInlineSecrets .plain PyEnv.plain.recursionLimit "body"
      (nestedLists PyEnv.plain.recursionLimit) = .error .recursionError :=
  ⟨not_hasSecret_nestedLists _, rejectInlineSecrets_nestedLists _ _ _⟩

end ComputeWeaver.Api
