import Mathlib.Data.String.Basic
import Mathlib.Tactic.Common

/-!
# Base64 with the standard alphabet and canonical padding
-/

namespace Base64Codec

def digitChar (n : ℕ) : Char :=
  if n < 26 then Char.ofNat (65 + n)
  else if n < 52 then Char.ofNat (71 + n)
  else if n < 62 then Char.ofNat (n - 4)
  else if n = 62 then '+'
  else '/'

def digitValue? (c : Char) : Option ℕ :=
  if 'A' ≤ c ∧ c ≤ 'Z' then some (c.toNat - 65)
  else if 'a' ≤ c ∧ c ≤ 'z' then some (c.toNat - 71)
  else if '0' ≤ c ∧ c ≤ '9' then some (c.toNat + 4)
  else if c = '+' then some 62
  else if c = '/' then some 63
  else none

lemma digitValue?_digitChar {n : ℕ} (h : n < 64) : digitValue? (digitChar n) = some n := by
  have hall : ∀ m : Fin 64, digitValue? (digitChar m) = some m.val := by decide
  exact hall ⟨n, h⟩

lemma digitChar_ne_pad {n : ℕ} (h : n < 64) : digitChar n ≠ '=' := by
  have hall : ∀ m : Fin 64, digitChar m ≠ '=' := by decide
  exact hall ⟨n, h⟩

def encode : List UInt8 → List Char
  | [] => []
  | [a] => [digitChar (a.toNat / 4), digitChar (a.toNat % 4 * 16), '=', '=']
  | [a, b] =>
    [digitChar (a.toNat / 4), digitChar (a.toNat % 4 * 16 + b.toNat / 16),
      digitChar (b.toNat % 16 * 4), '=']
  | a :: b :: c :: rest =>
    digitChar (a.toNat / 4) :: digitChar (a.toNat % 4 * 16 + b.toNat / 16) ::
      digitChar (b.toNat % 16 * 4 + c.toNat / 64) :: digitChar (c.toNat % 64) :: encode rest

/-- The byte that ends in a digit which the padding cuts off. -/
def decodeOne (p q : Char) : Option (List UInt8) := do
  let p ← digitValue? p
  let q ← digitValue? q
  if q % 16 = 0 then some [UInt8.ofNat (p * 4 + q / 16)] else none

def decodeTwo (p q r : Char) : Option (List UInt8) := do
  let p ← digitValue? p
  let q ← digitValue? q
  let r ← digitValue? r
  if r % 4 = 0 then
    some [UInt8.ofNat (p * 4 + q / 16), UInt8.ofNat (q % 16 * 16 + r / 4)]
  else none

def decodeThree (p q r s : Char) : Option (List UInt8) := do
  let p ← digitValue? p
  let q ← digitValue? q
  let r ← digitValue? r
  let s ← digitValue? s
  return [UInt8.ofNat (p * 4 + q / 16), UInt8.ofNat (q % 16 * 16 + r / 4),
    UInt8.ofNat (r % 4 * 64 + s)]

/-- Padding ends the text, and the bits it cuts off are zero. -/
def decode : List Char → Option (List UInt8)
  | [] => some []
  | p :: q :: r :: s :: rest =>
    if s = '=' then
      if rest ≠ [] then none
      else if r = '=' then decodeOne p q
      else decodeTwo p q r
    else do
      let bytes ← decodeThree p q r s
      let more ← decode rest
      return bytes ++ more
  | _ => none

section Groups

variable (a b c : UInt8)

lemma ofNat_split {n : ℕ} (h : n = a.toNat) : UInt8.ofNat n = a := by
  rw [h, UInt8.ofNat_toNat]

lemma decodeOne_encode :
    decodeOne (digitChar (a.toNat / 4)) (digitChar (a.toNat % 4 * 16)) = some [a] := by
  have ha := a.toNat_lt
  have hfirst : UInt8.ofNat (a.toNat / 4 * 4 + a.toNat % 4 * 16 / 16) = a :=
    ofNat_split a (by omega)
  have hcut : a.toNat % 4 * 16 % 16 = 0 := by omega
  simp only [decodeOne, digitValue?_digitChar (show a.toNat / 4 < 64 by omega),
    digitValue?_digitChar (show a.toNat % 4 * 16 < 64 by omega), Option.bind_eq_bind,
    Option.bind_some, hcut, hfirst, if_true]

lemma decodeTwo_encode :
    decodeTwo (digitChar (a.toNat / 4)) (digitChar (a.toNat % 4 * 16 + b.toNat / 16))
      (digitChar (b.toNat % 16 * 4)) = some [a, b] := by
  have ha := a.toNat_lt
  have hb := b.toNat_lt
  have hfirst : UInt8.ofNat (a.toNat / 4 * 4 + (a.toNat % 4 * 16 + b.toNat / 16) / 16) = a :=
    ofNat_split a (by omega)
  have hsecond : UInt8.ofNat ((a.toNat % 4 * 16 + b.toNat / 16) % 16 * 16 +
      b.toNat % 16 * 4 / 4) = b := ofNat_split b (by omega)
  have hcut : b.toNat % 16 * 4 % 4 = 0 := by omega
  simp only [decodeTwo, digitValue?_digitChar (show a.toNat / 4 < 64 by omega),
    digitValue?_digitChar (show a.toNat % 4 * 16 + b.toNat / 16 < 64 by omega),
    digitValue?_digitChar (show b.toNat % 16 * 4 < 64 by omega), Option.bind_eq_bind,
    Option.bind_some, hcut, hfirst, hsecond, if_true]

lemma decodeThree_encode :
    decodeThree (digitChar (a.toNat / 4)) (digitChar (a.toNat % 4 * 16 + b.toNat / 16))
      (digitChar (b.toNat % 16 * 4 + c.toNat / 64)) (digitChar (c.toNat % 64)) =
      some [a, b, c] := by
  have ha := a.toNat_lt
  have hb := b.toNat_lt
  have hc := c.toNat_lt
  have hfirst : UInt8.ofNat (a.toNat / 4 * 4 + (a.toNat % 4 * 16 + b.toNat / 16) / 16) = a :=
    ofNat_split a (by omega)
  have hsecond : UInt8.ofNat ((a.toNat % 4 * 16 + b.toNat / 16) % 16 * 16 +
      (b.toNat % 16 * 4 + c.toNat / 64) / 4) = b := ofNat_split b (by omega)
  have hthird : UInt8.ofNat ((b.toNat % 16 * 4 + c.toNat / 64) % 4 * 64 + c.toNat % 64) = c :=
    ofNat_split c (by omega)
  simp only [decodeThree, digitValue?_digitChar (show a.toNat / 4 < 64 by omega),
    digitValue?_digitChar (show a.toNat % 4 * 16 + b.toNat / 16 < 64 by omega),
    digitValue?_digitChar (show b.toNat % 16 * 4 + c.toNat / 64 < 64 by omega),
    digitValue?_digitChar (show c.toNat % 64 < 64 by omega), Option.bind_eq_bind,
    Option.bind_some, hfirst, hsecond, hthird]
  rfl

end Groups

theorem decode_encode (bytes : List UInt8) : decode (encode bytes) = some bytes := by
  induction bytes using encode.induct with
  | case1 => rfl
  | case2 a => simp [encode, decode, decodeOne_encode]
  | case3 a b =>
    have hb := b.toNat_lt
    have hpad := digitChar_ne_pad (show b.toNat % 16 * 4 < 64 by omega)
    simp [encode, decode, hpad, decodeTwo_encode]
  | case4 a b c rest ih =>
    have hpad := digitChar_ne_pad (show c.toNat % 64 < 64 by omega)
    simp [encode, decode, hpad, decodeThree_encode, ih]

lemma utf8Size_digitChar {n : ℕ} (h : n < 64) : (digitChar n).utf8Size = 1 := by
  have hall : ∀ m : Fin 64, (digitChar m).utf8Size = 1 := by decide
  exact hall ⟨n, h⟩

theorem utf8Len_encode (bytes : List UInt8) :
    String.utf8Len (encode bytes) = 4 * ((bytes.length + 2) / 3) := by
  have hpad : '='.utf8Size = 1 := rfl
  have hfirst (a : UInt8) : (digitChar (a.toNat / 4)).utf8Size = 1 :=
    utf8Size_digitChar (by have ha := a.toNat_lt; omega)
  have hsecond (a b : UInt8) : (digitChar (a.toNat % 4 * 16 + b.toNat / 16)).utf8Size = 1 :=
    utf8Size_digitChar (by have hb := b.toNat_lt; omega)
  have hthird (b c : UInt8) : (digitChar (b.toNat % 16 * 4 + c.toNat / 64)).utf8Size = 1 :=
    utf8Size_digitChar (by have hc := c.toNat_lt; omega)
  have hlast (c : UInt8) : (digitChar (c.toNat % 64)).utf8Size = 1 :=
    utf8Size_digitChar (by omega)
  induction bytes using encode.induct with
  | case1 => rfl
  | case2 a =>
    have hcut : (digitChar (a.toNat % 4 * 16)).utf8Size = 1 := utf8Size_digitChar (by omega)
    simp [encode, hpad, hfirst, hcut]
  | case3 a b =>
    have hcut : (digitChar (b.toNat % 16 * 4)).utf8Size = 1 := utf8Size_digitChar (by omega)
    simp [encode, hpad, hfirst, hsecond, hcut]
  | case4 a b c rest ih =>
    simp only [encode, String.utf8Len_cons, ih, hfirst, hsecond, hthird, hlast, List.length_cons]
    omega

end Base64Codec
