/-
Lib.IsoFormat — the text `datetime.isoformat` makes of a time.

A time is a wall clock and, if it is aware, its offset from UTC. Every field
has a fixed number of digits; a fraction of a second is written only if it is
not zero, and so are the seconds of an offset. What is written first tells
whether it is there, so the text determines the time (`isoformat_injective`).
-/
import Mathlib.Algebra.Group.Nat.Defs
import Mathlib.Data.Fintype.Basic
import ComputeWeaver.Lib.PrefixCode

namespace Lib

open List

/-! ## Decimal digits -/

def digitChar (n : Nat) : Char := Char.ofNat (48 + n)

variable {m n width bound : Nat} {r r' : List Char}

theorem digitChar_inj (hm : m < 10) (hn : n < 10) (h : digitChar m = digitChar n) : m = n := by
  have hall : ∀ a < 10, ∀ b < 10, digitChar a = digitChar b → a = b := by decide
  exact hall m hm n hn h

/-- A number with leading zeros. -/
def padded : Nat → Nat → List Char
  | 0, _ => []
  | width + 1, n => padded width (n / 10) ++ [digitChar (n % 10)]

@[simp] theorem length_padded (width n : Nat) : (padded width n).length = width := by
  induction width generalizing n with
  | zero => rfl
  | succ width ih => simp [padded, ih]

theorem padded_inj (hm : m < 10 ^ width) (hn : n < 10 ^ width)
    (h : padded width m = padded width n) : m = n := by
  induction width generalizing m n with
  | zero => omega
  | succ width ih =>
    obtain ⟨hhigh, hlow⟩ := append_inj' h rfl
    have hdiv : m / 10 = n / 10 := by
      refine ih ?_ ?_ hhigh
      · exact Nat.div_lt_of_lt_mul (by rwa [Nat.pow_succ, Nat.mul_comm] at hm)
      · exact Nat.div_lt_of_lt_mul (by rwa [Nat.pow_succ, Nat.mul_comm] at hn)
    have hmod : m % 10 = n % 10 :=
      digitChar_inj (Nat.mod_lt _ (by decide)) (Nat.mod_lt _ (by decide)) (List.cons.inj hlow).1
    omega

theorem prefixCode_padded (h : bound ≤ 10 ^ width) :
    PrefixCode fun n : Fin bound => padded width n := by
  refine .of_length (by simp) ?_
  intro m n hmn
  exact Fin.ext (padded_inj (Nat.lt_of_lt_of_le m.isLt h) (Nat.lt_of_lt_of_le n.isLt h) hmn)

/-! ## Times -/

/-- What a clock shows. -/
structure WallClock where
  year : Fin 10000
  month : Fin 13
  day : Fin 32
  hour : Fin 24
  minute : Fin 60
  second : Fin 60
  microsecond : Fin 1000000
  deriving DecidableEq

/-- Year, month, day, hour, minute, second, microsecond. -/
def wallClock (year month day hour minute second microsecond : Nat) : WallClock :=
  ⟨Fin.ofNat _ year, Fin.ofNat _ month, Fin.ofNat _ day, Fin.ofNat _ hour, Fin.ofNat _ minute,
    Fin.ofNat _ second, Fin.ofNat _ microsecond⟩

/-- How far a clock is ahead of UTC, or behind it. -/
structure UtcOffset where
  behind : Bool
  hours : Fin 24
  minutes : Fin 60
  seconds : Fin 60
  microseconds : Fin 1000000
  deriving DecidableEq

/-- A `datetime`; without an offset it is naive. -/
structure Timestamp where
  clock : WallClock
  offset : Option UtcOffset
  deriving DecidableEq

/-- A reading of `datetime.now(UTC)`. -/
def WallClock.utc (clock : WallClock) : Timestamp := ⟨clock, some ⟨false, 0, 0, 0, 0⟩⟩

/-- A fraction of a second, if there is one. -/
def fraction (microsecond : Fin 1000000) : List Char :=
  if microsecond = 0 then [] else '.' :: padded 6 microsecond

namespace UtcOffset

def sign (offset : UtcOffset) : Char := if offset.behind then '-' else '+'

/-- The seconds, if there are any or a fraction of one. -/
def tail (offset : UtcOffset) : List Char :=
  if offset.seconds = 0 ∧ offset.microseconds = 0 then []
  else ':' :: (padded 2 offset.seconds ++ fraction offset.microseconds)

def text (offset : UtcOffset) : List Char :=
  offset.sign :: (padded 2 offset.hours ++ ':' :: (padded 2 offset.minutes ++ offset.tail))

end UtcOffset

/-- Date and time, down to the second. -/
def WallClock.seconds (clock : WallClock) : List Char :=
  padded 4 clock.year ++ '-' :: (padded 2 clock.month ++ '-' :: (padded 2 clock.day ++
    'T' :: (padded 2 clock.hour ++ ':' :: (padded 2 clock.minute ++
      ':' :: padded 2 clock.second))))

/-- `datetime.isoformat`. -/
def Timestamp.isoformat (time : Timestamp) : String :=
  String.ofList (time.clock.seconds ++ (fraction time.clock.microsecond ++
    (time.offset.map UtcOffset.text).getD []))

/-! ## The text determines the time -/

theorem prefixCode_two (h : bound ≤ 100) : PrefixCode fun n : Fin bound => padded 2 n :=
  prefixCode_padded h

theorem WallClock.seconds_inj {c c' : WallClock} (h : c.seconds ++ r = c'.seconds ++ r') :
    (c.year = c'.year ∧ c.month = c'.month ∧ c.day = c'.day ∧ c.hour = c'.hour ∧
      c.minute = c'.minute ∧ c.second = c'.second) ∧ r = r' := by
  have hyear : PrefixCode fun n : Fin 10000 => padded 4 n := prefixCode_padded (le_refl _)
  have hmonth : PrefixCode fun n : Fin 13 => padded 2 n := prefixCode_two (by decide)
  have hday : PrefixCode fun n : Fin 32 => padded 2 n := prefixCode_two (by decide)
  have hhour : PrefixCode fun n : Fin 24 => padded 2 n := prefixCode_two (by decide)
  have hsixty : PrefixCode fun n : Fin 60 => padded 2 n := prefixCode_two (by decide)
  simp only [WallClock.seconds, append_assoc, cons_append] at h
  obtain ⟨h₁, h⟩ := hyear _ _ _ _ h
  obtain ⟨h₂, h⟩ := hmonth _ _ _ _ (List.cons.inj h).2
  obtain ⟨h₃, h⟩ := hday _ _ _ _ (List.cons.inj h).2
  obtain ⟨h₄, h⟩ := hhour _ _ _ _ (List.cons.inj h).2
  obtain ⟨h₅, h⟩ := hsixty _ _ _ _ (List.cons.inj h).2
  obtain ⟨h₆, h⟩ := hsixty _ _ _ _ (List.cons.inj h).2
  exact ⟨⟨h₁, h₂, h₃, h₄, h₅, h₆⟩, h⟩

/-- A fraction is told from its absence by what comes first. -/
theorem fraction_inj {m m' : Fin 1000000} (hr : r.head? ≠ some '.') (hr' : r'.head? ≠ some '.')
    (h : fraction m ++ r = fraction m' ++ r') : m = m' ∧ r = r' := by
  have hsix : PrefixCode fun n : Fin 1000000 => padded 6 n := prefixCode_padded (le_refl _)
  unfold fraction at h
  by_cases hm : m = 0 <;> by_cases hm' : m' = 0
  · simp only [hm, hm', if_true, nil_append] at h
    exact ⟨hm.trans hm'.symm, h⟩
  · simp only [hm, hm', if_true, if_false, nil_append, cons_append] at h
    rw [h] at hr
    exact absurd rfl hr
  · simp only [hm, hm', if_true, if_false, nil_append, cons_append] at h
    rw [← h] at hr'
    exact absurd rfl hr'
  · simp only [hm, hm', if_false, cons_append, List.cons.injEq, true_and] at h
    exact hsix m m' r r' h

namespace UtcOffset

variable {o o' : UtcOffset}

theorem tail_inj (h : o.tail = o'.tail) :
    o.seconds = o'.seconds ∧ o.microseconds = o'.microseconds := by
  have hsixty : PrefixCode fun n : Fin 60 => padded 2 n := prefixCode_two (by decide)
  unfold tail at h
  split at h <;> split at h
  · rename_i ho ho'
    exact ⟨ho.1.trans ho'.1.symm, ho.2.trans ho'.2.symm⟩
  · cases h
  · cases h
  · obtain ⟨hseconds, hrest⟩ := hsixty _ _ _ _ (List.cons.inj h).2
    have hrest' : fraction o.microseconds ++ [] = fraction o'.microseconds ++ [] := by
      simpa using hrest
    exact ⟨hseconds, (fraction_inj (by simp) (by simp) hrest').1⟩

theorem sign_inj (h : o.sign = o'.sign) : o.behind = o'.behind := by
  unfold sign at h
  cases hb : o.behind <;> cases hb' : o'.behind <;> simp [hb, hb'] at h ⊢

theorem text_injective : Function.Injective text := by
  intro o o' h
  have hhour : PrefixCode fun n : Fin 24 => padded 2 n := prefixCode_two (by decide)
  have hsixty : PrefixCode fun n : Fin 60 => padded 2 n := prefixCode_two (by decide)
  obtain ⟨hsign, h⟩ := List.cons.inj h
  have hbehind := sign_inj hsign
  obtain ⟨hhours, h⟩ := hhour _ _ _ _ h
  obtain ⟨hminutes, h⟩ := hsixty _ _ _ _ (List.cons.inj h).2
  obtain ⟨hseconds, hmicroseconds⟩ := tail_inj h
  cases o
  cases o'
  simp_all

/-- The text of an offset does not look like a fraction. -/
theorem head?_text (offset : Option UtcOffset) : ((offset.map text).getD []).head? ≠ some '.' := by
  cases offset with
  | none => simp
  | some o =>
    simp only [Option.map_some, Option.getD_some, text, sign, head?_cons, ne_eq,
      Option.some.injEq]
    split <;> decide

end UtcOffset

/-- **Main result.** Different times have different texts. -/
theorem isoformat_injective : Function.Injective Timestamp.isoformat := by
  intro t t' h
  have hchars := String.ofList_injective h
  obtain ⟨hseconds, hrest⟩ := WallClock.seconds_inj hchars
  obtain ⟨hmicro, hoffset⟩ := fraction_inj (UtcOffset.head?_text _) (UtcOffset.head?_text _) hrest
  have hoffset' : t.offset = t'.offset := by
    cases ho : t.offset with
    | none =>
      cases ho' : t'.offset with
      | none => rfl
      | some o' => simp [ho, ho', UtcOffset.text] at hoffset
    | some o =>
      cases ho' : t'.offset with
      | none => simp [ho, ho', UtcOffset.text] at hoffset
      | some o' =>
        rw [ho, ho'] at hoffset
        rw [UtcOffset.text_injective hoffset]
  obtain ⟨⟨year, month, day, hour, minute, second, microsecond⟩, offset⟩ := t
  obtain ⟨⟨year', month', day', hour', minute', second', microsecond'⟩, offset'⟩ := t'
  simp only at hseconds hmicro hoffset'
  obtain ⟨rfl, rfl, rfl, rfl, rfl, rfl⟩ := hseconds
  subst hmicro hoffset'
  rfl

end Lib
