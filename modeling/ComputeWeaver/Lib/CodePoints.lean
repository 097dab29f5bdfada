/-
Lib.CodePoints — Python strings, code point by code point.

A Python string is a list of code points, and a surrogate is a code point like
any other, so the string of two surrogates and the character that they encode
are different strings. In UTF-16 they are the same units. A string that has
neither a character beyond the first 65536 nor a pair of surrogates is the only
one with its units (`eq_of_utf16_eq`); any other can be spelled differently
(`respell_ne`).
-/
import Mathlib.Data.Fintype.Basic
import ComputeWeaver.Lib.PrefixCode

namespace Lib

open Bool List

abbrev CodePoint : Type := Fin 1114112

abbrev Utf16Unit : Type := Fin 65536

def codePoint (n : Nat) : CodePoint := Fin.ofNat _ n

def utf16Unit (n : Nat) : Utf16Unit := Fin.ofNat _ n

/-- A `str`. -/
abbrev PyStr : Type := List CodePoint

/-- A string literal. -/
def pyStr (s : String) : PyStr := s.toList.map fun c => codePoint c.toNat

namespace CodePoint

def isHigh (c : CodePoint) : Bool := decide (55296 ≤ c.val) && decide (c.val < 56320)

def isLow (c : CodePoint) : Bool := decide (56320 ≤ c.val) && decide (c.val < 57344)

def isSurrogate (c : CodePoint) : Bool := decide (55296 ≤ c.val) && decide (c.val < 57344)

/-- The first half of a character beyond the first 65536. -/
def high (c : CodePoint) : CodePoint := Fin.ofNat _ (55296 + (c.val - 65536) / 1024)

def low (c : CodePoint) : CodePoint := Fin.ofNat _ (56320 + (c.val - 65536) % 1024)

/-- The character of two halves. -/
def combine (h l : CodePoint) : CodePoint :=
  Fin.ofNat _ (65536 + (h.val - 55296) * 1024 + (l.val - 56320))

def units (c : CodePoint) : List Utf16Unit :=
  if c.val < 65536 then [Fin.ofNat _ c.val]
  else [Fin.ofNat _ c.high.val, Fin.ofNat _ c.low.val]

variable {c d : CodePoint}

theorem val_high (hc : 65536 ≤ c.val) : c.high.val = 55296 + (c.val - 65536) / 1024 := by
  have hlt := c.isLt
  exact Nat.mod_eq_of_lt (by omega)

theorem val_low (c : CodePoint) : c.low.val = 56320 + (c.val - 65536) % 1024 :=
  Nat.mod_eq_of_lt (by omega)

theorem units_of_lt (hc : c.val < 65536) : c.units = [Fin.ofNat _ c.val] :=
  if_pos hc

theorem units_of_le (hc : 65536 ≤ c.val) :
    c.units = [Fin.ofNat _ c.high.val, Fin.ofNat _ c.low.val] :=
  if_neg (Nat.not_lt.mpr hc)

theorem isHigh_high (hc : 65536 ≤ c.val) : c.high.isHigh = true := by
  have hlt := c.isLt
  have hval := val_high hc
  simp only [isHigh, and_eq_true, decide_eq_true_eq]
  omega

theorem isLow_low (c : CodePoint) : c.low.isLow = true := by
  have hval := val_low c
  simp only [isLow, and_eq_true, decide_eq_true_eq]
  omega

theorem lt_of_isHigh (h : c.isHigh = true) : c.val < 65536 := by
  simp only [isHigh, and_eq_true, decide_eq_true_eq] at h
  omega

theorem lt_of_isLow (h : c.isLow = true) : c.val < 65536 := by
  simp only [isLow, and_eq_true, decide_eq_true_eq] at h
  omega

/-- A unit that is one code point by itself is that code point. -/
theorem eq_of_unit_eq (hc : c.val < 65536) (hd : d.val < 65536)
    (h : Fin.ofNat 65536 c.val = Fin.ofNat 65536 d.val) : c = d := by
  have hval := congrArg Fin.val h
  simp only [Fin.val_ofNat, Nat.mod_eq_of_lt hc, Nat.mod_eq_of_lt hd] at hval
  exact Fin.ext hval

theorem eq_of_halves_eq (hc : 65536 ≤ c.val) (hd : 65536 ≤ d.val) (hhigh : c.high = d.high)
    (hlow : c.low = d.low) : c = d := by
  have h₁ := congrArg Fin.val hhigh
  have h₂ := congrArg Fin.val hlow
  rw [val_high hc, val_high hd] at h₁
  rw [val_low, val_low] at h₂
  exact Fin.ext (by omega)

/-- The halves of the character are the two surrogates. -/
theorem combine_halves {h l : CodePoint} (hh : h.isHigh = true) (hl : l.isLow = true) :
    65536 ≤ (combine h l).val ∧ (combine h l).high = h ∧ (combine h l).low = l := by
  simp only [isHigh, isLow, and_eq_true, decide_eq_true_eq] at hh hl
  have hval : (combine h l).val = 65536 + (h.val - 55296) * 1024 + (l.val - 56320) :=
    Nat.mod_eq_of_lt (by omega)
  have hle : 65536 ≤ (combine h l).val := by omega
  refine ⟨hle, Fin.ext ?_, Fin.ext ?_⟩
  · rw [val_high hle]
    omega
  · rw [val_low]
    omega

end CodePoint

open CodePoint

/-- A string in UTF-16; lone surrogates are units like any other. -/
def utf16 (s : PyStr) : List Utf16Unit := s.flatMap units

@[simp] theorem utf16_nil : utf16 [] = [] := rfl

@[simp] theorem utf16_cons (c : CodePoint) (s : PyStr) : utf16 (c :: s) = c.units ++ utf16 s := rfl

variable {c : CodePoint} {s t : PyStr}

theorem units_halves (hc : 65536 ≤ c.val) (s : PyStr) :
    utf16 (c.high :: c.low :: s) = utf16 (c :: s) := by
  rw [utf16_cons, utf16_cons, utf16_cons, units_of_lt (lt_of_isHigh (isHigh_high hc)),
    units_of_lt (lt_of_isLow (isLow_low c)), units_of_le hc]
  rfl

/-! ## Strings that UTF-16 tells from every other -/

/-- Neither a character beyond the first 65536 nor a pair of surrogates. -/
def unambiguous : PyStr → Bool
  | [] => true
  | c :: s => decide (c.val < 65536) && !(c.isHigh && s.head?.any isLow) && unambiguous s

/-- The first character that is one of a pair or could be a pair, written the
other way. -/
def respell : PyStr → PyStr
  | [] => []
  | c :: s =>
      if 65536 ≤ c.val then c.high :: c.low :: s
      else
        match s with
        | [] => [c]
        | d :: s' =>
            if c.isHigh && d.isLow then combine c d :: s' else c :: respell (d :: s')

theorem utf16_respell (s : PyStr) : utf16 (respell s) = utf16 s := by
  induction s with
  | nil => rfl
  | cons c s ih =>
    unfold respell
    split
    · rename_i hc
      exact units_halves hc s
    cases s with
    | nil => rfl
    | cons d s' =>
      simp only []
      split
      · rename_i hpair
        rw [and_eq_true] at hpair
        obtain ⟨hle, hhigh, hlow⟩ := combine_halves hpair.1 hpair.2
        have hunits := units_halves hle s'
        rw [hhigh, hlow] at hunits
        exact hunits.symm
      · rw [utf16_cons, ih, ← utf16_cons]

theorem respell_ne (h : unambiguous s = false) : respell s ≠ s := by
  induction s with
  | nil => cases h
  | cons c s ih =>
    unfold respell
    split
    · rename_i hc
      intro heq
      have hlength := congrArg List.length heq
      simp at hlength
    rename_i hc
    cases s with
    | nil => simp_all [unambiguous]
    | cons d s' =>
      simp only []
      split
      · intro heq
        have hlength := congrArg List.length heq
        simp at hlength
      rename_i hpair
      intro heq
      refine ih ?_ (List.cons.inj heq).2
      simp only [unambiguous, head?_cons, Option.any_some] at h ⊢
      simp_all

theorem eq_of_utf16_eq (ht : unambiguous t = true) (h : utf16 s = utf16 t) : s = t := by
  induction t generalizing s with
  | nil =>
    cases s with
    | nil => rfl
    | cons d s =>
      have hlength := congrArg List.length h
      simp only [utf16_cons, utf16_nil, units] at hlength
      split at hlength <;> simp at hlength
  | cons c t ih =>
    simp only [unambiguous, and_eq_true, decide_eq_true_eq] at ht
    obtain ⟨⟨hc, hpair⟩, ht⟩ := ht
    cases s with
    | nil =>
      rw [utf16_cons, units_of_lt hc] at h
      simp at h
    | cons d s =>
      rw [utf16_cons, utf16_cons, units_of_lt hc] at h
      by_cases hd : d.val < 65536
      · rw [units_of_lt hd] at h
        obtain ⟨hunit, hrest⟩ := List.cons.inj h
        rw [eq_of_unit_eq hd hc hunit, ih ht hrest]
      -- the two units of `d` would be a pair of surrogates in `t`
      have hd' : 65536 ≤ d.val := Nat.not_lt.mp hd
      rw [units_of_le hd'] at h
      obtain ⟨hunit, hrest⟩ := List.cons.inj h
      have hhigh := eq_of_unit_eq (lt_of_isHigh (isHigh_high hd')) hc hunit
      cases t with
      | nil => simp at hrest
      | cons e t =>
        have he : e.val < 65536 := by
          simp only [unambiguous, and_eq_true, decide_eq_true_eq] at ht
          exact ht.1.1
        rw [utf16_cons, units_of_lt he] at hrest
        have hlow := eq_of_unit_eq (lt_of_isLow (isLow_low d)) he (List.cons.inj hrest).1
        have hfound : (c.isHigh && e.isLow) = true := by
          rw [← hhigh, ← hlow, isHigh_high hd', isLow_low]
          rfl
        simp [hfound] at hpair

/-! ## Strings without surrogates -/

/-- A string that can be encoded. -/
def encodable (s : PyStr) : Bool := s.all fun c => !c.isSurrogate

theorem units_inj {d : CodePoint} {r r' : List Utf16Unit} (hc : c.isSurrogate = false)
    (hd : d.isSurrogate = false) (h : c.units ++ r = d.units ++ r') : c = d ∧ r = r' := by
  -- where one is a half of the other, it is a surrogate
  have hhalf : ∀ {a b : CodePoint}, a.isSurrogate = false → a.val < 65536 → 65536 ≤ b.val →
      Fin.ofNat 65536 a.val ≠ Fin.ofNat 65536 b.high.val := by
    intro a b ha hlt hle heq
    have hhigh := isHigh_high hle
    rw [← eq_of_unit_eq hlt (lt_of_isHigh hhigh) heq] at hhigh
    simp only [isSurrogate, isHigh, and_eq_true, and_eq_false_iff, decide_eq_true_eq,
      decide_eq_false_iff_not] at ha hhigh
    omega
  rcases Nat.lt_or_ge c.val 65536 with hc' | hc' <;> rcases Nat.lt_or_ge d.val 65536 with hd' | hd'
  · rw [units_of_lt hc', units_of_lt hd'] at h
    obtain ⟨hunit, hrest⟩ := List.cons.inj h
    exact ⟨eq_of_unit_eq hc' hd' hunit, hrest⟩
  · rw [units_of_lt hc', units_of_le hd'] at h
    exact absurd (List.cons.inj h).1 (hhalf hc hc' hd')
  · rw [units_of_le hc', units_of_lt hd'] at h
    exact absurd (List.cons.inj h).1.symm (hhalf hd hd' hc')
  · rw [units_of_le hc', units_of_le hd'] at h
    obtain ⟨hhigh, hrest⟩ := List.cons.inj h
    obtain ⟨hlow, hrest⟩ := List.cons.inj hrest
    have h₁ := eq_of_unit_eq (lt_of_isHigh (isHigh_high hc')) (lt_of_isHigh (isHigh_high hd')) hhigh
    have h₂ := eq_of_unit_eq (lt_of_isLow (isLow_low c)) (lt_of_isLow (isLow_low d)) hlow
    exact ⟨eq_of_halves_eq hc' hd' h₁ h₂, hrest⟩

theorem units_ne_nil (c : CodePoint) : c.units ≠ [] := by
  unfold units
  split <;> simp

theorem utf16_inj (hs : encodable s = true) (ht : encodable t = true) (h : utf16 s = utf16 t) :
    s = t := by
  induction s generalizing t with
  | nil =>
    cases t with
    | nil => rfl
    | cons d t => simp [units_ne_nil] at h
  | cons c s ih =>
    cases t with
    | nil => simp [units_ne_nil] at h
    | cons d t =>
      simp only [encodable, all_cons, and_eq_true, not_eq_true'] at hs ht
      obtain ⟨hcd, hrest⟩ := units_inj hs.1 ht.1 h
      rw [hcd, ih hs.2 ht.2 hrest]

/-! ## Literals -/

theorem toNat_pyStr (c : Char) : (codePoint c.toNat).val = c.toNat := by
  have hvalid := c.valid
  refine Nat.mod_eq_of_lt ?_
  rcases hvalid with h | h
  · exact Nat.lt_trans h (by decide)
  · exact h.2

theorem pyStr_injective : Function.Injective pyStr := by
  intro s t h
  refine String.toList_inj.mp (map_injective_iff.mpr ?_ h)
  intro c d hcd
  have hval := congrArg Fin.val hcd
  rw [toNat_pyStr, toNat_pyStr] at hval
  exact Char.toNat_inj.mp hval

theorem encodable_pyStr (s : String) : encodable (pyStr s) = true := by
  simp only [encodable, pyStr, all_map, all_eq_true, Function.comp_apply,
    not_eq_true', isSurrogate, and_eq_false_iff, decide_eq_false_iff_not, toNat_pyStr]
  intro c _
  rcases c.valid with h | h
  · exact .inl (Nat.not_le.mpr h)
  · exact .inr (Nat.not_lt.mpr h.1)

end Lib
