/-
Persistence.Postgres — what Postgres and its driver do with the
values of a statement (`packages/persistence/postgres.py`).

Every persistent component opens its transactions with `tenant_connection`,
which refuses some tenant ids and rolls the transaction back when its block
raises. The driver refuses texts with a NUL character, an `integer` column
numbers of more than 32 bits. A `numeric` column takes every `Decimal`, the
special values included; its arithmetic is exact, and in its order NaN is the
greatest value. `Session` has what depends on the database's settings: how
`ORDER BY` compares texts, and which instant a naive time is.
-/
import ComputeWeaver.Lib.Decimal

namespace ComputeWeaver.Persistence

open Lib

def hasNul (s : String) : Bool := s.toList.contains '\x00'

/-- A text parameter of a statement. -/
def checkText (s : String) : Except PyError Unit :=
  if hasNul s then throw (.databaseError "DataError") else pure ()

/-- The check `tenant_connection` makes. -/
def checkTenant (tenantId : String) : Except PyError Unit :=
  if tenantId = "" ∨ hasNul tenantId then throw (.valueError "invalid tenant ID") else pure ()

/-- A value for an `integer` column. -/
def checkInteger (n : Int) : Except PyError Unit :=
  if -2147483648 ≤ n ∧ n ≤ 2147483647 then pure ()
  else throw (.databaseError "NumericValueOutOfRange")

/-! ## `numeric` -/

namespace Numeric

/-- `a <= b`. -/
def le : PyDecimal → PyDecimal → Bool
  | _, .nan => true
  | .nan, _ => false
  | .infinity true, _ => true
  | _, .infinity false => true
  | .finite p, .finite q => decide (p ≤ q)
  | _, _ => false

/-- `a + b`: opposite infinities have no sum, but do not fail either. -/
def add : PyDecimal → PyDecimal → PyDecimal
  | .nan, _ => .nan
  | _, .nan => .nan
  | .finite p, .finite q => .finite (p + q)
  | .infinity a, .infinity b => if a = b then .infinity a else .nan
  | .infinity a, .finite _ => .infinity a
  | .finite _, .infinity b => .infinity b

/-- `a - b`. -/
def sub (a b : PyDecimal) : PyDecimal := add a b.neg

/-- `greatest(a, b)`. -/
def greatest (a b : PyDecimal) : PyDecimal := if le a b then b else a

/-- Where a Python comparison with a number succeeds, SQL has the same
answer. -/
theorem le_finite {q : Rat} {d : PyDecimal} (hd : d ≠ .nan) :
    le (.finite q) d = true ↔ (PyDecimal.finite q).le d = .ok true := by
  cases d with
  | finite r => simp [le, PyDecimal.le, pure, Except.pure]
  | infinity negative => cases negative <;> simp [le, PyDecimal.le, pure, Except.pure]
  | nan => exact absurd rfl hd

end Numeric

/-! ## Transactions -/

section

variable {σ α : Type}

/-- A check inside a block: the block raises where it fails. -/
def checked (check : Except PyError Unit) (s : σ) (rest : Except PyError α × σ) :
    Except PyError α × σ :=
  match check with
  | .ok () => rest
  | .error e => (.error e, s)

@[simp] theorem checked_ok (s : σ) (rest : Except PyError α × σ) :
    checked (.ok ()) s rest = rest := rfl

/-- `tenant_connection` around a block of statements: what the block wrote is
committed if it returns and rolled back if it raises. -/
def tenantConnection (s : σ) (tenantId actorId : String) (block : σ → Except PyError α × σ) :
    Except PyError α × σ :=
  checked (do checkTenant tenantId; checkText actorId) s <|
    match block s with
    | (.ok a, committed) => (.ok a, committed)
    | (.error e, _) => (.error e, s)

end

/-! ## Settings of the database -/

structure Session where
  /-- the order of `ORDER BY` on a text column -/
  collate : String → String → Bool
  /-- the instant of a naive time, in microseconds -/
  ofNaive : Int → Int

/-- The instant that a `timestamptz` column stores. -/
def Session.instant (session : Session) : DateTime → Int
  | .aware micros => micros
  | .naive micros => session.ofNaive micros

/-- A database that orders by code point and is in UTC. -/
def plainSession : Session := ⟨fun a b => decide (a ≤ b), id⟩

/-! ## Texts that Postgres takes -/

/-- The tenant and the other texts of a call are ones Postgres takes. -/
def PlainTexts (tenantId : String) (texts : List String) : Prop :=
  tenantId ≠ "" ∧ ∀ text ∈ tenantId :: texts, hasNul text = false

instance (tenantId : String) (texts : List String) : Decidable (PlainTexts tenantId texts) :=
  inferInstanceAs (Decidable (_ ∧ _))

variable {tenantId : String} {texts : List String}

theorem checkTenant_ok (h : PlainTexts tenantId texts) : checkTenant tenantId = .ok () := by
  have hnul := h.2 tenantId List.mem_cons_self
  simp [checkTenant, h.1, hnul]

theorem checkText_ok (text : String) (h : PlainTexts tenantId texts) (hmem : text ∈ texts) :
    checkText text = .ok () := by
  have hnul := h.2 text (List.mem_cons_of_mem _ hmem)
  simp [checkText, hnul]

end ComputeWeaver.Persistence
