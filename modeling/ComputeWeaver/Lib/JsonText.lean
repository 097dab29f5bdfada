/-
Lib.JsonText — the text `json.dumps` makes of strings, and of
dictionaries of strings.

With `ensure_ascii` a string becomes ASCII: quotes and backslashes are escaped,
some control characters have a short form, and every other character outside
the printable range is written with four hexadecimal digits, a character beyond
the first 65536 as its two UTF-16 units. A surrogate is written as one unit, so
the text has the UTF-16 units of the strings and nothing more: two dictionaries
have the same text exactly if their members have the same units
(`jsonObject_eq_iff`).
-/
import ComputeWeaver.Lib.CodePoints
import ComputeWeaver.Lib.Python

namespace Lib

/-! ## Hexadecimal digits -/

def hexDigit (n : Nat) : Char :=
  if n < 10 then Char.ofNat (48 + n) else Char.ofNat (87 + n)

def hexValue (c : Char) : Nat := if c.toNat < 58 then c.toNat - 48 else c.toNat - 87

theorem hexValue_hexDigit : ∀ n < 16, hexValue (hexDigit n) = n := by decide

/-- `\uXXXX`. -/
def hex4 (n : Nat) : List Char :=
  [hexDigit (n / 4096 % 16), hexDigit (n / 256 % 16), hexDigit (n / 16 % 16), hexDigit (n % 16)]

def readHex4 : List Char → Option (Nat × List Char)
  | a :: b :: c :: d :: rest =>
      some (((hexValue a * 16 + hexValue b) * 16 + hexValue c) * 16 + hexValue d, rest)
  | _ => none

theorem readHex4_hex4 {n : Nat} (h : n < 65536) (rest : List Char) :
    readHex4 (hex4 n ++ rest) = some (n, rest) := by
  have hdigit : ∀ m, hexValue (hexDigit (m % 16)) = m % 16 :=
    fun m => hexValue_hexDigit _ (Nat.mod_lt m (by decide))
  have hvalue : ((n / 4096 % 16 * 16 + n / 256 % 16) * 16 + n / 16 % 16) * 16 + n % 16 = n := by
    omega
  simp only [hex4, List.cons_append, List.nil_append, readHex4, hdigit, hvalue]

/-! ## Strings -/

def escapeUnit (u : Utf16Unit) : List Char :=
  if u.val = 34 then ['\\', '"']
  else if u.val = 92 then ['\\', '\\']
  else if u.val = 10 then ['\\', 'n']
  else if u.val = 13 then ['\\', 'r']
  else if u.val = 9 then ['\\', 't']
  else if u.val = 12 then ['\\', 'f']
  else if u.val = 8 then ['\\', 'b']
  else if 32 ≤ u.val ∧ u.val ≤ 126 then [Char.ofNat u.val]
  else '\\' :: 'u' :: hex4 u.val

def readUnit : List Char → Option (Utf16Unit × List Char)
  | '\\' :: '"' :: rest => some (utf16Unit 34, rest)
  | '\\' :: '\\' :: rest => some (utf16Unit 92, rest)
  | '\\' :: 'n' :: rest => some (utf16Unit 10, rest)
  | '\\' :: 'r' :: rest => some (utf16Unit 13, rest)
  | '\\' :: 't' :: rest => some (utf16Unit 9, rest)
  | '\\' :: 'f' :: rest => some (utf16Unit 12, rest)
  | '\\' :: 'b' :: rest => some (utf16Unit 8, rest)
  | '\\' :: 'u' :: rest => (readHex4 rest).map fun (n, rest) => (utf16Unit n, rest)
  | c :: rest => some (utf16Unit c.toNat, rest)
  | [] => none

theorem readUnit_plain {c : Char} (h : c ≠ '\\') (rest : List Char) :
    readUnit (c :: rest) = some (utf16Unit c.toNat, rest) := by
  rw [readUnit.eq_def]
  split <;> simp_all

theorem readUnit_hex (u : Utf16Unit) (rest : List Char) :
    readUnit ('\\' :: 'u' :: hex4 u.val ++ rest) = some (u, rest) := by
  have hread : readHex4 (hex4 u.val ++ rest) = some (u.val, rest) := readHex4_hex4 u.isLt rest
  have hself : utf16Unit u.val = u := Fin.ext (Nat.mod_eq_of_lt u.isLt)
  simp only [List.cons_append, readUnit, hread, Option.map_some, hself]

/-- A printable unit is the character it is. -/
theorem toNat_printable {n : Nat} (h : n ≤ 126) : (Char.ofNat n).toNat = n := by
  have hall : ∀ m < 127, (Char.ofNat m).toNat = m := by decide
  exact hall n (by omega)

theorem readUnit_escapeUnit (u : Utf16Unit) (rest : List Char) :
    readUnit (escapeUnit u ++ rest) = some (u, rest) := by
  -- every special unit has one short form
  have hspecial : ∀ {n : Nat} (c : Char), u.val = n →
      readUnit ('\\' :: c :: rest) = some (utf16Unit n, rest) →
      readUnit (['\\', c] ++ rest) = some (u, rest) := by
    intro n c hn hread
    have hself : utf16Unit n = u := Fin.ext (by rw [← hn]; exact Nat.mod_eq_of_lt u.isLt)
    rw [← hself]
    exact hread
  unfold escapeUnit
  iterate 7
    split
    · rename_i h
      exact hspecial _ h rfl
  split
  · rename_i hslash _ _ _ _ _ hprintable
    have htoNat := toNat_printable hprintable.2
    have hplain : Char.ofNat u.val ≠ '\\' := by
      intro heq
      rw [heq] at htoNat
      exact hslash htoNat.symm
    have hread := readUnit_plain hplain rest
    rw [htoNat] at hread
    have hself : utf16Unit u.val = u := Fin.ext (Nat.mod_eq_of_lt u.isLt)
    rw [hself] at hread
    exact hread
  · exact readUnit_hex u rest

/-- No unit is written with a quote in front. -/
theorem escapeUnit_cons (u : Utf16Unit) : ∃ x xs, escapeUnit u = x :: xs ∧ x ≠ '"' := by
  unfold escapeUnit
  split
  · exact ⟨_, _, rfl, by decide⟩
  rename_i hquote
  have hchar : u.val ≤ 126 → Char.ofNat u.val ≠ '"' := by
    intro hle heq
    have htoNat := toNat_printable hle
    rw [heq] at htoNat
    exact hquote htoNat.symm
  split_ifs
  all_goals first
    | exact ⟨_, _, rfl, by decide⟩
    | exact ⟨_, _, rfl, hchar (by omega)⟩

/-- Units, in quotes. -/
def quoteUnits (units : List Utf16Unit) : List Char := '"' :: (units.flatMap escapeUnit ++ ['"'])

def jsonString (s : PyStr) : List Char := quoteUnits (utf16 s)

theorem prefixCode_quoteUnits : PrefixCode quoteUnits :=
  ((PrefixCode.of_read readUnit readUnit_escapeUnit).flatMap escapeUnit_cons).after ['"']

/-! ## Dictionaries of strings -/

/-- A key and its value. -/
def jsonMember (item : PyStr × PyStr) : List Char :=
  jsonString item.1 ++ ([':', ' '] ++ jsonString item.2)

/-- What follows a member. -/
def jsonMembers : List (PyStr × PyStr) → List Char
  | [] => ['\x7d']
  | item :: rest => ',' :: ' ' :: (jsonMember item ++ jsonMembers rest)

/-- `json.dumps` of a dictionary, its items in the order they are written. -/
def jsonObject : List (PyStr × PyStr) → List Char
  | [] => ['\x7b', '\x7d']
  | item :: rest => '\x7b' :: (jsonMember item ++ jsonMembers rest)

/-- `json.dumps(..., sort_keys=True)`. -/
def jsonDumpsSorted (items : List (PyStr × PyStr)) : String :=
  String.ofList (jsonObject (pySorted (fun a b => decide (a.1 ≤ b.1)) items))

def memberUnits (item : PyStr × PyStr) : List Utf16Unit × List Utf16Unit :=
  (utf16 item.1, utf16 item.2)

variable {items items' : List (PyStr × PyStr)}

/-- A text starts with one member at most. -/
theorem jsonMember_append_eq_iff {item item' : PyStr × PyStr} {r r' : List Char} :
    jsonMember item ++ r = jsonMember item' ++ r' ↔
      memberUnits item = memberUnits item' ∧ r = r' := by
  refine ⟨(prefixCode_quoteUnits.append (prefixCode_quoteUnits.after [':', ' ']))
    (memberUnits item) (memberUnits item') r r', ?_⟩
  rintro ⟨hunits, rfl⟩
  obtain ⟨hkey, hvalue⟩ := Prod.mk.inj hunits
  simp only [jsonMember, jsonString, hkey, hvalue]

theorem jsonMembers_eq_iff :
    jsonMembers items = jsonMembers items' ↔ items.map memberUnits = items'.map memberUnits := by
  induction items generalizing items' with
  | nil => cases items' <;> simp [jsonMembers]
  | cons item rest ih =>
    cases items' with
    | nil => simp [jsonMembers]
    | cons item' rest' =>
      simp only [jsonMembers, List.cons.injEq, true_and, jsonMember_append_eq_iff, ih,
        List.map_cons]

/-- **Main result.** Dictionaries with the same text are those whose members
are the same in UTF-16. -/
theorem jsonObject_eq_iff :
    jsonObject items = jsonObject items' ↔ items.map memberUnits = items'.map memberUnits := by
  cases items with
  | nil => cases items' <;> simp [jsonObject, jsonMember, jsonString, quoteUnits]
  | cons item rest =>
    cases items' with
    | nil => simp [jsonObject, jsonMember, jsonString, quoteUnits]
    | cons item' rest' =>
      simp only [jsonObject, List.cons.injEq, true_and, jsonMember_append_eq_iff,
        jsonMembers_eq_iff, List.map_cons]

end Lib
