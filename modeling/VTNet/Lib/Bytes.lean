import Mathlib.Data.Nat.ModEq
import Mathlib.Logic.Equiv.Defs
import Mathlib.Tactic.Common
import Mathlib.Tactic.Ring

/-!
# Byte arrays of a fixed size and big-endian integers
-/

namespace Bytes

/-- A byte array of exactly `n` bytes. -/
structure Fixed (n : ℕ) where
  toList : List UInt8
  length_toList : toList.length = n
  deriving DecidableEq

attribute [simp] Fixed.length_toList

lemma Fixed.ext {n : ℕ} {a b : Fixed n} (h : a.toList = b.toList) : a = b := by
  cases a
  cases b
  cases h
  rfl

/-- `try_into` of a byte slice, which fails when the length is not `n`. -/
def Fixed.ofList? (n : ℕ) (bytes : List UInt8) : Option (Fixed n) :=
  if h : bytes.length = n then some ⟨bytes, h⟩ else none

@[simp] lemma Fixed.ofList?_toList {n : ℕ} (a : Fixed n) : Fixed.ofList? n a.toList = some a := by
  simp [Fixed.ofList?]

def Fixed.replicate (n : ℕ) (byte : UInt8) : Fixed n := ⟨List.replicate n byte, by simp⟩

/-- The `width` low bytes of `n`, most significant first. -/
def toBeBytes : ℕ → ℕ → List UInt8
  | 0, _ => []
  | width + 1, n => UInt8.ofNat (n / 256 ^ width) :: toBeBytes width n

def ofBeBytes : List UInt8 → ℕ
  | [] => 0
  | byte :: bytes => byte.toNat * 256 ^ bytes.length + ofBeBytes bytes

@[simp] lemma length_toBeBytes (width n : ℕ) : (toBeBytes width n).length = width := by
  induction width with
  | zero => rfl
  | succ width ih => simp [toBeBytes, ih]

lemma ofBeBytes_toBeBytes (width n : ℕ) : ofBeBytes (toBeBytes width n) = n % 256 ^ width := by
  induction width with
  | zero => simp [toBeBytes, ofBeBytes, Nat.mod_one]
  | succ width ih =>
    have hbyte : (UInt8.ofNat (n / 256 ^ width)).toNat = n / 256 ^ width % 256 := by simp
    rw [toBeBytes, ofBeBytes, ih, length_toBeBytes, hbyte, Nat.mod_pow_succ]
    ring

lemma ofBeBytes_lt (bytes : List UInt8) : ofBeBytes bytes < 256 ^ bytes.length := by
  induction bytes with
  | nil => simp [ofBeBytes]
  | cons byte bytes ih =>
    have hbyte := byte.toNat_lt
    have hhigh : byte.toNat * 256 ^ bytes.length ≤ 255 * 256 ^ bytes.length :=
      Nat.mul_le_mul_right _ (by omega)
    rw [ofBeBytes, List.length_cons, pow_succ]
    omega

lemma toBeBytes_add_mul (width n k : ℕ) :
    toBeBytes width (k * 256 ^ width + n) = toBeBytes width n := by
  induction width generalizing k with
  | zero => rfl
  | succ width ih =>
    have hpow : k * 256 ^ (width + 1) + n = k * 256 * 256 ^ width + n := by ring
    have hdiv : (k * 256 * 256 ^ width + n) / 256 ^ width = k * 256 + n / 256 ^ width := by
      rw [Nat.add_comm, Nat.add_mul_div_right _ _ (Nat.pow_pos (by decide)), Nat.add_comm]
    rw [toBeBytes, toBeBytes, hpow, ih, hdiv]
    congr 1
    apply UInt8.toNat_inj.mp
    simp

lemma toBeBytes_ofBeBytes (bytes : List UInt8) :
    toBeBytes bytes.length (ofBeBytes bytes) = bytes := by
  induction bytes with
  | nil => rfl
  | cons byte bytes ih =>
    have hlow := ofBeBytes_lt bytes
    have hdiv : (byte.toNat * 256 ^ bytes.length + ofBeBytes bytes) / 256 ^ bytes.length =
        byte.toNat := by
      rw [Nat.add_comm, Nat.add_mul_div_right _ _ (Nat.pow_pos (by decide)), Nat.div_eq_of_lt hlow,
        Nat.zero_add]
    rw [List.length_cons, toBeBytes, ofBeBytes, toBeBytes_add_mul, ih, hdiv, UInt8.ofNat_toNat]

/-- The big-endian representation is one to one. -/
def bigEndian (width : ℕ) : Fixed width ≃ Fin (256 ^ width) where
  toFun bytes := ⟨ofBeBytes bytes.toList, by
    have h := ofBeBytes_lt bytes.toList
    rwa [bytes.length_toList] at h⟩
  invFun n := ⟨toBeBytes width n, length_toBeBytes width n⟩
  left_inv bytes := by
    apply Fixed.ext
    have h := toBeBytes_ofBeBytes bytes.toList
    rwa [bytes.length_toList] at h
  right_inv n := by
    apply Fin.ext
    change ofBeBytes (toBeBytes width n) = n
    rw [ofBeBytes_toBeBytes, Nat.mod_eq_of_lt n.isLt]

/-! ### Hexadecimal digits -/

def hexDigit (n : ℕ) : Char := if n < 10 then Char.ofNat (48 + n) else Char.ofNat (87 + n)

def hexValue? (c : Char) : Option ℕ :=
  if '0' ≤ c ∧ c ≤ '9' then some (c.toNat - 48)
  else if 'a' ≤ c ∧ c ≤ 'f' then some (c.toNat - 87)
  else if 'A' ≤ c ∧ c ≤ 'F' then some (c.toNat - 55)
  else none

lemma hexValue?_hexDigit {n : ℕ} (h : n < 16) : hexValue? (hexDigit n) = some n := by
  have hall : ∀ m : Fin 16, hexValue? (hexDigit m) = some m.val := by decide
  exact hall ⟨n, h⟩

lemma utf8Size_hexDigit {n : ℕ} (h : n < 16) : (hexDigit n).utf8Size = 1 := by
  have hall : ∀ m : Fin 16, (hexDigit m).utf8Size = 1 := by decide
  exact hall ⟨n, h⟩

/-- The format `{:02x}`. -/
def lowerHex (byte : UInt8) : List Char := [hexDigit (byte.toNat / 16), hexDigit (byte.toNat % 16)]

/-- The byte of two digits. -/
def hexByte? (high low : Char) : Option UInt8 := do
  let high ← hexValue? high
  let low ← hexValue? low
  return UInt8.ofNat (high * 16 + low)

lemma hexByte?_lowerHex (byte : UInt8) :
    hexByte? (hexDigit (byte.toNat / 16)) (hexDigit (byte.toNat % 16)) = some byte := by
  have hbyte := byte.toNat_lt
  have hsplit : byte.toNat / 16 * 16 + byte.toNat % 16 = byte.toNat := by omega
  simp only [hexByte?, hexValue?_hexDigit (show byte.toNat / 16 < 16 by omega),
    hexValue?_hexDigit (show byte.toNat % 16 < 16 by omega), Option.bind_eq_bind,
    Option.bind_some, hsplit, UInt8.ofNat_toNat]
  rfl

end Bytes
