/-
Lib.Value — the dynamically typed values that request bodies,
stored documents and recorded intents are made of: what `json.loads` yields,
plus the `Decimal` and `datetime` objects code puts into a document itself.

A dictionary is a bare association list in insertion order (`Lib.assocGet`,
`Lib.assocSet`), a tuple is a list. A float and a decimal are represented by
their exact rational value.

`PyEnv` collects the library functions on such values whose results no
statement depends on: the digest of a document's canonical JSON text, the
text `str` gives for a float, a decimal or a container, the string parsers
and the lower case of a string. Results are stated for every `PyEnv`.
-/
import Mathlib.Data.Rat.Defs
import ComputeWeaver.Lib.Python

namespace Lib

inductive Value where
  | none
  | bool (b : Bool)
  | int (i : Int)
  | float (q : Rat)
  | decimal (q : Rat)
  | str (s : String)
  | time (t : DateTime)
  | list (items : List Value)
  | dict (items : List (String × Value))

/-- A `dict[str, Any]`. -/
abbrev Document := List (String × Value)

namespace Value

/-- `bool(value)`. -/
def truthy : Value → Bool
  | none => false
  | bool b => b
  | int i => i ≠ 0
  | float q => q ≠ 0
  | decimal q => q ≠ 0
  | str s => s ≠ ""
  | time _ => true
  | list items => !items.isEmpty
  | dict items => !items.isEmpty

/-- The value is this string: `value == text`. -/
def isStr (value : Value) (text : String) : Bool :=
  match value with
  | str s => s = text
  | _ => false

@[simp] theorem isStr_str (s text : String) : (str s).isStr text = decide (s = text) := rfl

end Value

mutual

/-- A text that shows the whole value. -/
def Value.render : Value → String
  | .none => "null"
  | .bool b => toString b
  | .int i => toString i
  | .float q => toString q
  | .decimal q => toString q
  | .str s => "'" ++ s ++ "'"
  | .time t => toString t.micros
  | .list items => "[" ++ Value.renderList items ++ "]"
  | .dict items => "\x7b" ++ Value.renderDict items ++ "\x7d"

def Value.renderList : List Value → String
  | [] => ""
  | item :: rest => item.render ++ "," ++ Value.renderList rest

def Value.renderDict : List (String × Value) → String
  | [] => ""
  | (key, item) :: rest => key ++ ":" ++ item.render ++ "," ++ Value.renderDict rest

end

mutual

/-- A checksum that is cheap to compute, for concrete runs. -/
def Value.checksum : Value → Nat
  | .none => 3
  | .bool b => if b then 5 else 7
  | .int i => i.natAbs * 2 + 11
  | .float q => q.num.natAbs + q.den
  | .decimal q => q.num.natAbs + q.den
  | .str s => s.utf8ByteSize + 13
  | .time _ => 17
  | .list items => Value.checksumList items
  | .dict items => Value.checksumItems items

def Value.checksumList : List Value → Nat
  | [] => 19
  | item :: rest => (item.checksum * 37 + Value.checksumList rest * 41) % 1000003

def Value.checksumItems : List (String × Value) → Nat
  | [] => 23
  | (k, item) :: rest =>
      (k.utf8ByteSize * 43 + item.checksum * 47 + Value.checksumItems rest * 53) % 1000003

end

/-- The environment's functions on values. -/
structure PyEnv where
  /-- `sha256(json.dumps(value, default=str, sort_keys=True).encode()).hexdigest()` -/
  digest : Value → String
  /-- `str(value)` for a float, a decimal, a datetime or a container -/
  text : Value → String
  /-- `int(text)` -/
  parseInt : String → Option Int
  /-- `Decimal(text)` -/
  parseDecimal : String → Option Rat
  /-- `datetime.fromisoformat(text)` -/
  parseTime : String → Option DateTime
  /-- its `utcoffset()`, in microseconds; 0 if it is naive -/
  parseOffset : String → Int := fun _ => 0
  /-- `text.lower()` -/
  lower : String → String
  /-- The calls that a recursive function has room for on the stack -/
  recursionLimit : Nat := 1000

namespace PyEnv

variable (env : PyEnv)

/-- `str(value)`. -/
def str : Value → String
  | .none => "None"
  | .bool true => "True"
  | .bool false => "False"
  | .int i => toString i
  | .str s => s
  | value => env.text value

/-- `int(value)`: a float or a decimal is truncated towards zero. -/
def int : Value → Except PyError Int
  | .bool b => pure (if b then 1 else 0)
  | .int i => pure i
  | .float q => pure (q.num.tdiv q.den)
  | .decimal q => pure (q.num.tdiv q.den)
  | .str s => match env.parseInt s with
      | some i => pure i
      | none => throw (.valueError "invalid literal for int()")
  | _ => throw .typeError

/-- `int(str(value))`: the numeral of an integer reads back as it. -/
def intOfText : Value → Except PyError Int
  | .int i => pure i
  | value => match env.parseInt (env.str value) with
      | some i => pure i
      | none => throw (.valueError "invalid literal for int()")

/-- `Decimal(str(value))`: the text of a decimal reads back as it. -/
def decimalOfText : Value → Except PyError Rat
  | .int i => pure i
  | .decimal q => pure q
  | value => match env.parseDecimal (env.str value) with
      | some q => pure q
      | none => throw .invalidOperation

/-- `datetime.fromisoformat(str(value))`. -/
def isoTime (value : Value) : Except PyError DateTime :=
  match env.parseTime (env.str value) with
  | some t => pure t
  | none => throw (.valueError "Invalid isoformat string")

/-- `list(value)`: the characters of a string, the keys of a dictionary. -/
def list : Value → Except PyError (List Value)
  | .str s => pure (s.toList.map fun c => .str c.toString)
  | .list items => pure items
  | .dict items => pure (items.map fun kv => .str kv.1)
  | _ => throw .typeError

/-- An environment for concrete runs: a document's digest is its own text,
and no string parses as a datetime. -/
def plain : PyEnv where
  digest := Value.render
  text := Value.render
  parseInt := String.toInt?
  parseDecimal := fun text => (text.toInt?).map fun i => i
  parseTime := fun _ => none
  lower := fun text => String.ofList (text.toList.map Char.toLower)

end PyEnv

/-- `document[key]`. -/
def docItem (document : Document) (key : String) : Except PyError Value :=
  match assocGet document key with
  | some value => pure value
  | none => throw (.keyError key)

/-- `document.get(key, default)`. -/
def docGetD (document : Document) (key : String) (default : Value) : Value :=
  (assocGet document key).getD default

/-- `{**document, key: value}`. -/
def docWith (document : Document) (key : String) (value : Value) : Document :=
  assocSet document key value

/-- `{k: v for k, v in document.items() if k != key}`. -/
def docWithout (document : Document) (key : String) : Document :=
  document.filter fun kv => kv.1 ≠ key

/-- `{**document, **fields}`. -/
def docUpdate (document fields : Document) : Document :=
  fields.foldl (fun document field => docWith document field.1 field.2) document

/-- `dict(value)`: a dictionary, or a sequence of pairs. A pair whose first
element is not a string is refused here, as no `Document` has such a key. -/
def PyEnv.dict : Value → Except PyError Document
  | .dict items => pure items
  | value => do
      let pairs ← (← PyEnv.list value).mapM fun item => do
        match ← PyEnv.list item with
        | [.str key, item] => pure (key, item)
        | [_, _] => throw .typeError
        | _ => throw (.valueError "dictionary update sequence element has wrong length")
      pure (docUpdate [] pairs)

/-- `value[key]`. -/
def Value.field (value : Value) (key : String) : Except PyError Value :=
  match value with
  | .dict items => docItem items key
  | _ => throw .typeError

/-- `value[index]`. -/
def Value.item (value : Value) (index : Nat) : Except PyError Value :=
  match value with
  | .list items => pyIndex items index
  | .str s => pyIndex (s.toList.map fun c => .str c.toString) index
  | .dict _ => throw (.keyError (toString index))
  | _ => throw .typeError

theorem assocGet_docWith (document : Document) (key key' : String) (value : Value) :
    assocGet (docWith document key value) key' =
      if key = key' then some value else assocGet document key' :=
  assocGet_assocSet document key key' value

theorem assocGet_docWithout (document : Document) (key key' : String) :
    assocGet (docWithout document key) key' =
      if key = key' then Option.none else assocGet document key' := by
  induction document with
  | nil => simp [docWithout, assocGet]
  | cons kv rest ih =>
    obtain ⟨k, v⟩ := kv
    by_cases hk : k = key
    · have hskip : docWithout ((k, v) :: rest) key = docWithout rest key := by
        simp [docWithout, hk]
      rw [hskip, ih]
      by_cases hk' : key = key' <;> simp [assocGet, hk, hk']
    · have hkeep : docWithout ((k, v) :: rest) key = (k, v) :: docWithout rest key := by
        simp [docWithout, hk]
      rw [hkeep, assocGet, ih, assocGet]
      by_cases hk' : k = key'
      · subst hk'; simp [Ne.symm hk]
      · simp [hk']

theorem assocGet_docUpdate_of_not_mem {document fields : Document} {key : String}
    (h : key ∉ fields.map Prod.fst) :
    assocGet (docUpdate document fields) key = assocGet document key := by
  induction fields generalizing document with
  | nil => rfl
  | cons field rest ih =>
    rw [List.map_cons, List.mem_cons, not_or] at h
    rw [docUpdate, List.foldl_cons, ← docUpdate, ih h.2, assocGet_docWith, if_neg (Ne.symm h.1)]

theorem nodup_docUpdate {document : Document} (h : (document.map Prod.fst).Nodup)
    (fields : Document) : ((docUpdate document fields).map Prod.fst).Nodup := by
  induction fields generalizing document with
  | nil => exact h
  | cons field rest ih => exact ih (nodup_assocSet h field.1 field.2)

/-- The first field has its value, if no later one sets it again. -/
theorem assocGet_docUpdate_head {document rest : Document} {key : String} {value : Value}
    (h : key ∉ rest.map Prod.fst) :
    assocGet (docUpdate document ((key, value) :: rest)) key = some value := by
  rw [docUpdate, List.foldl_cons, ← docUpdate, assocGet_docUpdate_of_not_mem h, assocGet_docWith,
    if_pos rfl]

end Lib
