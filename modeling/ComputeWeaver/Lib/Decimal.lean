/-
Lib.Decimal — decimal numbers with their special values.

`Decimal` has infinities and a NaN beside the finite numbers, and a text may
name them. Ordering a NaN signals `InvalidOperation`, which is an
`ArithmeticError`: a handler for `ValueError` does not catch it, neither here
nor when a text is no number at all. Sums and differences are rounded by the
context; infinities of the same sign have no difference.

A quotient is rounded to 28 digits, half to even, as the default context does it
(`quotient`). Exponents are not bounded.
-/
import Mathlib.Algebra.Order.Field.Power
import Mathlib.Algebra.Order.Ring.Rat
import Mathlib.Algebra.Order.Ring.Unbundled.Rat
import Mathlib.Data.Nat.Digits.Lemmas
import Mathlib.Data.Rat.Floor
import Mathlib.Tactic.Linarith
import ComputeWeaver.Lib.Value

namespace Lib

/-- A `Decimal`. -/
inductive PyDecimal where
  | finite (q : Rat)
  | infinity (negative : Bool)
  | nan
  deriving DecidableEq

namespace PyDecimal

/-- `a <= b`. -/
def le : PyDecimal → PyDecimal → Except PyError Bool
  | nan, _ => throw .invalidOperation
  | _, nan => throw .invalidOperation
  | finite p, finite q => pure (decide (p ≤ q))
  | infinity true, _ => pure true
  | _, infinity false => pure true
  | infinity false, _ => pure false
  | finite _, infinity true => pure false

variable {p q r : Rat}

/-- What a number is under, a smaller number is under too. -/
theorem le_of_le {d : PyDecimal} (hpq : p ≤ q) (h : (finite q).le d = .ok true) :
    (finite p).le d = .ok true := by
  cases d with
  | finite r =>
    have hqr : q ≤ r := by simpa [le, pure, Except.pure] using h
    simpa [le, pure, Except.pure] using Rat.le_trans hpq hqr
  | infinity negative =>
    cases negative with
    | false => rfl
    | true => simp [le, pure, Except.pure] at h
  | nan => cases h

/-- `a < b`. -/
def lt (a b : PyDecimal) : Except PyError Bool := do return !(← le b a)

theorem lt_eq_false {a b : PyDecimal} : lt a b = .ok false ↔ le b a = .ok true := by
  unfold lt
  cases le b a <;> simp [bind, Except.bind, pure, Except.pure]

@[simp] theorem lt_finite (p q : Rat) : lt (finite p) (finite q) = .ok (decide (p < q)) := by
  have hneg : (!decide (q ≤ p)) = decide (p < q) := by
    rw [← decide_not]
    exact decide_eq_decide.mpr Rat.not_le
  rw [← hneg]
  rfl

/-- `max(a, b)`: the first one unless the second is greater. -/
def max (a b : PyDecimal) : Except PyError PyDecimal := do
  if ← lt a b then return b else return a

/-- The number, of a finite one. -/
def toRat : PyDecimal → Rat
  | finite q => q
  | _ => 0

/-- What a context does with the exact result of an operation: it rounds it to
its precision, and may signal. -/
structure Context where
  round : Rat → Except PyError Rat

/-- A context with enough digits for every result. -/
def Context.exact : Context := ⟨pure⟩

def neg : PyDecimal → PyDecimal
  | finite q => finite (-q)
  | infinity negative => infinity !negative
  | nan => nan

/-- `a + b`. -/
def add (context : Context) : PyDecimal → PyDecimal → Except PyError PyDecimal
  | nan, _ => pure nan
  | _, nan => pure nan
  | finite p, finite q => do return finite (← context.round (p + q))
  | infinity a, infinity b => if a = b then pure (infinity a) else throw .invalidOperation
  | infinity a, finite _ => pure (infinity a)
  | finite _, infinity b => pure (infinity b)

/-- `a - b`. -/
def sub (context : Context) (a b : PyDecimal) : Except PyError PyDecimal := a.add context b.neg

variable {context : Context}

theorem add_finite (h : context.round (p + q) = .ok r) :
    add context (finite p) (finite q) = .ok (finite r) := by
  simp [add, h, bind, Except.bind, pure, Except.pure]

theorem sub_finite (h : context.round (p - q) = .ok r) :
    sub context (finite p) (finite q) = .ok (finite r) :=
  add_finite (by rwa [← Rat.sub_eq_add_neg])

theorem max_of_nonneg (h : 0 ≤ q) : max (finite 0) (finite q) = .ok (finite q) := by
  rcases Rat.le_iff_lt_or_eq.mp h with hlt | rfl
  · simp [max, hlt, bind, Except.bind, pure, Except.pure]
  · rfl

/-! ## Quotients -/

def roundHalfEven (q : ℚ) : Int :=
  let below := ⌊q⌋
  if q - below < 1 / 2 then below
  else if 1 / 2 < q - below then below + 1
  else if below % 2 = 0 then below else below + 1

theorem le_roundHalfEven {n : Int} (h : n ≤ q) : n ≤ roundHalfEven q := by
  have hbelow : n ≤ ⌊q⌋ := Int.le_floor.mpr h
  unfold roundHalfEven
  dsimp only
  split_ifs <;> omega

/-- In units of ten to this power a number has `digits` digits, or one more. -/
def lastPlace (digits : Nat) (q : ℚ) : Int :=
  (Nat.digits 10 q.num.natAbs).length - (Nat.digits 10 q.den).length - digits

def roundTo (digits : Nat) (q : ℚ) : ℚ :=
  let place := lastPlace digits q
  let place := if 10 ^ digits ≤ |q| / 10 ^ place then place + 1 else place
  roundHalfEven (q / 10 ^ place) * 10 ^ place

/-- `a / b` of finite numbers. -/
def quotient (a b : ℚ) : ℚ := roundTo 28 (a / b)

theorem one_le_div_lastPlace {digits : Nat} (hdigits : 0 < digits) (hq : 0 < q) :
    1 ≤ q / 10 ^ lastPlace digits q := by
  have hnum : 0 < q.num := Rat.num_pos.mpr hq
  have hlow := Nat.base_pow_length_digits_le 10 q.num.natAbs (by omega) (by omega)
  have hhigh : q.den < 10 ^ (Nat.digits 10 q.den).length :=
    Nat.lt_base_pow_length_digits (by omega)
  rw [lastPlace]
  generalize (Nat.digits 10 q.num.natAbs).length = a at *
  generalize (Nat.digits 10 q.den).length = b at *
  have hnumerator : (10 : ℚ) ^ a ≤ 10 * q.num := by
    have habs : ((q.num.natAbs : ℕ) : ℚ) = q.num := by
      rw [← Int.cast_natCast, Int.natAbs_of_nonneg hnum.le]
    rw [← habs]
    exact_mod_cast hlow
  have hdenominator : (q.den : ℚ) * 10 ≤ 10 ^ b * 10 ^ digits := by
    have hten : (10 : ℚ) ≤ 10 ^ digits := le_self_pow₀ (by norm_num) hdigits.ne'
    have hden : (q.den : ℚ) ≤ 10 ^ b := by exact_mod_cast hhigh.le
    exact mul_le_mul hden hten (by norm_num) (pow_nonneg (by norm_num) _)
  rw [le_div_iff₀ (zpow_pos (by norm_num) _), one_mul, zpow_sub₀ (by norm_num),
    zpow_sub₀ (by norm_num), zpow_natCast, zpow_natCast, zpow_natCast, div_div,
    div_le_iff₀ (mul_pos (pow_pos (by norm_num) _) (pow_pos (by norm_num) _))]
  calc (10 : ℚ) ^ a ≤ 10 * q.num := hnumerator
    _ = q * (q.den * 10) := by rw [← Rat.mul_den_eq_num q]; ring
    _ ≤ q * (10 ^ b * 10 ^ digits) := mul_le_mul_of_nonneg_left hdenominator hq.le

theorem roundTo_pos {digits : Nat} (hdigits : 0 < digits) (hq : 0 < q) : 0 < roundTo digits q := by
  have hround : ∀ place : Int, 1 ≤ q / 10 ^ place →
      0 < (roundHalfEven (q / 10 ^ place) : ℚ) * 10 ^ place := by
    intro place hone
    have hpos : 1 ≤ roundHalfEven (q / 10 ^ place) := le_roundHalfEven (by exact_mod_cast hone)
    exact mul_pos (by exact_mod_cast hpos) (zpow_pos (by norm_num) _)
  unfold roundTo
  dsimp only
  split
  · rename_i hlong
    refine hround _ ?_
    rw [abs_of_pos hq] at hlong
    rw [zpow_add_one₀ (by norm_num), ← div_div, le_div_iff₀ (by norm_num), one_mul]
    exact (le_self_pow₀ (by norm_num) hdigits.ne').trans hlong
  · exact hround _ (one_le_div_lastPlace hdigits hq)

theorem quotient_pos (hp : 0 < p) (hq : 0 < q) : 0 < quotient p q :=
  roundTo_pos (by omega) (div_pos hp hq)

/-- The special value a text names: an infinity or a NaN, the latter with
digits behind it or none. White space around it and underscores do not
count. -/
def special? (text : String) : Option PyDecimal :=
  let chars := ((pyStrip text).toList.filter (· ≠ '_')).map Char.toLower
  let negative := chars.head? = some '-'
  let body := if chars.head? = some '-' ∨ chars.head? = some '+' then chars.tail else chars
  if body = "inf".toList ∨ body = "infinity".toList then some (.infinity negative)
  else if body.take 3 = "nan".toList ∧ (body.drop 3).all Char.isDigit then some .nan
  else if body.take 4 = "snan".toList ∧ (body.drop 4).all Char.isDigit then some .nan
  else none

end PyDecimal

/-- `Decimal(str(value))`: the text of a number reads back as it. -/
def PyEnv.decimal (env : PyEnv) : Value → Except PyError PyDecimal
  | .int i => pure (.finite i)
  | .decimal q => pure (.finite q)
  | value =>
      match PyDecimal.special? (env.str value) with
      | some d => pure d
      | none =>
          match env.parseDecimal (env.str value) with
          | some q => pure (.finite q)
          | none => throw .invalidOperation

end Lib
