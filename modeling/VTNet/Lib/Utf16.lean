import Mathlib.Tactic.Common

/-!
# Code points of UTF-16 text

A text is its list of code units. A surrogate without its other half stays a code point of its
own, and such a text has no characters.
-/

namespace Utf16

def isHigh (unit : UInt16) : Bool := 0xD800 ≤ unit && unit ≤ 0xDBFF

def isLow (unit : UInt16) : Bool := 0xDC00 ≤ unit && unit ≤ 0xDFFF

def isSurrogate (unit : UInt16) : Bool := isHigh unit || isLow unit

inductive CodePoint
  | scalar (c : Char)
  | lone (unit : UInt16) (surrogate : isSurrogate unit = true)

def CodePoint.scalar? : CodePoint → Option Char
  | .scalar c => some c
  | .lone _ _ => none

def single (unit : UInt16) : CodePoint :=
  if h : isSurrogate unit = true then .lone unit h else .scalar (Char.ofNat unit.toNat)

def pair (high low : UInt16) : CodePoint :=
  .scalar (Char.ofNat (0x10000 + (high.toNat - 0xD800) * 0x400 + (low.toNat - 0xDC00)))

def codePoints : List UInt16 → List CodePoint
  | [] => []
  | [u] => [single u]
  | u :: v :: rest =>
    if isHigh u && isLow v then pair u v :: codePoints rest else single u :: codePoints (v :: rest)

/-- The characters of the text, if it is well formed. -/
def toChars? (units : List UInt16) : Option (List Char) := (codePoints units).mapM CodePoint.scalar?

/-- No text has more code points than code units. -/
lemma length_codePoints_le (units : List UInt16) : (codePoints units).length ≤ units.length := by
  induction units using codePoints.induct with
  | case1 => exact Nat.le_refl _
  | case2 u => exact Nat.le_refl _
  | case3 u v rest hsurrogates ih =>
    rw [codePoints, if_pos hsurrogates]
    simp only [List.length_cons]
    omega
  | case4 u v rest hsurrogates ih =>
    rw [codePoints, if_neg hsurrogates]
    simp only [List.length_cons] at ih ⊢
    omega

/-- Without surrogates every unit is a character. -/
lemma codePoints_eq_map {units : List UInt16} (h : ∀ u ∈ units, isSurrogate u = false) :
    codePoints units = units.map single := by
  induction units using codePoints.induct with
  | case1 => rfl
  | case2 u => rfl
  | case3 u v rest hsurrogates ih =>
    have hu := h u List.mem_cons_self
    rw [Bool.and_eq_true] at hsurrogates
    rw [isSurrogate, hsurrogates.1, Bool.true_or] at hu
    cases hu
  | case4 u v rest hsurrogates ih =>
    rw [codePoints, if_neg hsurrogates, ih (fun w hw => h w (List.mem_cons_of_mem u hw))]
    rfl

end Utf16
