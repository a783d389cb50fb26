import VTNet.Lib.Bytes
import VTNet.Lib.Utf16
import Mathlib.Data.Int.Notation
import Mathlib.Data.String.Basic

/-!
# JSON texts

The text that `JSON.stringify` gives to strings and objects, and a parser of such texts.
-/

namespace Json

open Utf16 (CodePoint)
open Bytes (hexDigit hexValue? hexValue?_hexDigit utf8Size_hexDigit)

/-- The tree of a JSON text. A number that is not an integer keeps its digits, and an object
keeps its fields in the order of the text, repeated names included. -/
inductive Value
  | null
  | bool (value : Bool)
  | int (value : ℤ)
  | float (digits : String)
  | str (value : String)
  | arr (items : List Value)
  | obj (fields : List (String × Value))

/-! ### Equality of trees -/

mutual

def Value.same : Value → Value → Bool
  | .null, .null => true
  | .bool a, .bool b => a = b
  | .int a, .int b => a = b
  | .float a, .float b => a = b
  | .str a, .str b => a = b
  | .arr a, .arr b => Value.sameItems a b
  | .obj a, .obj b => Value.sameFields a b
  | _, _ => false

def Value.sameItems : List Value → List Value → Bool
  | [], [] => true
  | a :: as, b :: bs => a.same b && Value.sameItems as bs
  | _, _ => false

def Value.sameFields : List (String × Value) → List (String × Value) → Bool
  | [], [] => true
  | (m, a) :: as, (n, b) :: bs => m = n && a.same b && Value.sameFields as bs
  | _, _ => false

end

mutual

lemma Value.same_iff : ∀ a b : Value, a.same b = true ↔ a = b
  | .null, b => by cases b <;> simp [Value.same]
  | .bool a, b => by cases b <;> simp [Value.same]
  | .int a, b => by cases b <;> simp [Value.same]
  | .float a, b => by cases b <;> simp [Value.same]
  | .str a, b => by cases b <;> simp [Value.same]
  | .arr a, b => by cases b <;> simp [Value.same, Value.sameItems_iff a]
  | .obj a, b => by cases b <;> simp [Value.same, Value.sameFields_iff a]

lemma Value.sameItems_iff : ∀ as bs : List Value, Value.sameItems as bs = true ↔ as = bs
  | [], bs => by cases bs <;> simp [Value.sameItems]
  | a :: as, bs => by
    cases bs <;> simp [Value.sameItems, Value.same_iff a, Value.sameItems_iff as]

lemma Value.sameFields_iff :
    ∀ as bs : List (String × Value), Value.sameFields as bs = true ↔ as = bs
  | [], bs => by cases bs <;> simp [Value.sameFields]
  | (m, a) :: as, bs => by
    cases bs <;> simp [Value.sameFields, Value.same_iff a, Value.sameFields_iff as, Prod.ext_iff]

end

instance : DecidableEq Value := fun a b => decidable_of_iff _ (Value.same_iff a b)

/-! ### Writing -/

def unicodeEscape (n : ℕ) : List Char :=
  ['\\', 'u', hexDigit (n / 4096), hexDigit (n / 256 % 16), hexDigit (n / 16 % 16),
    hexDigit (n % 16)]

def escapeChar (c : Char) : List Char :=
  if c = '"' then ['\\', '"']
  else if c = '\\' then ['\\', '\\']
  else if c.toNat = 8 then ['\\', 'b']
  else if c.toNat = 9 then ['\\', 't']
  else if c.toNat = 10 then ['\\', 'n']
  else if c.toNat = 12 then ['\\', 'f']
  else if c.toNat = 13 then ['\\', 'r']
  else if c.toNat < 32 then unicodeEscape c.toNat
  else [c]

def escape : CodePoint → List Char
  | .scalar c => escapeChar c
  | .lone unit _ => unicodeEscape unit.toNat

def quote (codePoints : List CodePoint) : List Char :=
  '"' :: codePoints.flatMap escape ++ ['"']

/-- The fields of an object, given by name and text, up to its closing brace. -/
def fieldsText : List (String × List Char) → List Char
  | [] => ['}']
  | [(name, text)] => quote (name.toList.map .scalar) ++ ':' :: (text ++ ['}'])
  | (name, text) :: field :: fields =>
    quote (name.toList.map .scalar) ++ ':' :: (text ++ ',' :: fieldsText (field :: fields))

def objectText (fields : List (String × List Char)) : List Char := '{' :: fieldsText fields

/-! ### Sizes of written texts -/

section Sizes

open String (utf8Len)

lemma utf8Len_unicodeEscape {n : ℕ} (h : n < 65536) : utf8Len (unicodeEscape n) = 6 := by
  have h1 := utf8Size_hexDigit (show n / 4096 < 16 by omega)
  have h2 := utf8Size_hexDigit (show n / 256 % 16 < 16 by omega)
  have h3 := utf8Size_hexDigit (show n / 16 % 16 < 16 by omega)
  have h4 := utf8Size_hexDigit (show n % 16 < 16 by omega)
  simp only [unicodeEscape, String.utf8Len_cons, String.utf8Len_nil, h1, h2, h3, h4]
  rfl

lemma utf8Len_escapeChar_le (c : Char) : utf8Len (escapeChar c) ≤ 6 := by
  by_cases hcontrol : c.toNat < 32
  · have hescape := utf8Len_unicodeEscape (show c.toNat < 65536 by omega)
    unfold escapeChar
    split_ifs <;> first | exact hescape.le | decide
  · have hfour := c.utf8Size_le_four
    have hsingle : utf8Len [c] ≤ 6 := by
      simp only [String.utf8Len_cons, String.utf8Len_nil]
      omega
    unfold escapeChar
    split_ifs <;> first | exact hsingle | decide

/-- No code point needs more than an escape of six bytes. -/
lemma utf8Len_escape_le (codePoint : CodePoint) : utf8Len (escape codePoint) ≤ 6 := by
  cases codePoint with
  | scalar c => exact utf8Len_escapeChar_le c
  | lone unit surrogate => exact (utf8Len_unicodeEscape unit.toNat_lt).le

lemma utf8Len_quote_le (codePoints : List CodePoint) :
    utf8Len (quote codePoints) ≤ 2 + 6 * codePoints.length := by
  have hescapes : utf8Len (codePoints.flatMap escape) ≤ 6 * codePoints.length := by
    induction codePoints with
    | nil => exact le_rfl
    | cons codePoint codePoints ih =>
      have hone := utf8Len_escape_le codePoint
      rw [List.flatMap_cons, String.utf8Len_append, List.length_cons]
      omega
  have hquotes : utf8Len (quote codePoints) = utf8Len (codePoints.flatMap escape) + 2 := by
    simp only [quote, String.utf8Len_append, String.utf8Len_cons, String.utf8Len_nil]
    rfl
  omega

end Sizes

/-! ### Reading -/

/-- The character of a unicode escape. The halves of a pair are not characters. -/
def unicodeChar? (a b c d : Char) : Option Char := do
  let a ← hexValue? a
  let b ← hexValue? b
  let c ← hexValue? c
  let d ← hexValue? d
  let n := a * 4096 + b * 256 + c * 16 + d
  if 0xD800 ≤ n ∧ n ≤ 0xDFFF then none else some (Char.ofNat n)

/-- What follows an opening quote, up to the closing one. -/
def parseString : List Char → Option (List Char × List Char)
  | [] => none
  | '"' :: rest => some ([], rest)
  | '\\' :: 'u' :: a :: b :: c :: d :: rest => do
    let char ← unicodeChar? a b c d
    let (chars, rest) ← parseString rest
    return (char :: chars, rest)
  | '\\' :: e :: rest => do
    let char ← match e with
      | '"' => some '"'
      | '\\' => some '\\'
      | '/' => some '/'
      | 'b' => some (Char.ofNat 8)
      | 't' => some (Char.ofNat 9)
      | 'n' => some (Char.ofNat 10)
      | 'f' => some (Char.ofNat 12)
      | 'r' => some (Char.ofNat 13)
      | _ => none
    let (chars, rest) ← parseString rest
    return (char :: chars, rest)
  | c :: rest => do
    if c.toNat < 32 ∨ c = '\\' then none
    let (chars, rest) ← parseString rest
    return (c :: chars, rest)

mutual

/-- A value that starts the text, with what follows it. Of the numbers only natural ones are read. -/
def parseValue : ℕ → List Char → Option (Value × List Char)
  | 0, _ => none
  | fuel + 1, text =>
    match text with
    | '"' :: rest => (parseString rest).map fun (chars, rest) => (.str (String.ofList chars), rest)
    | '{' :: '}' :: rest => some (.obj [], rest)
    | '{' :: rest => (parseFields fuel rest).map fun (fields, rest) => (.obj fields, rest)
    | c :: rest =>
      if c.isDigit then
        let digits := c :: rest.takeWhile Char.isDigit
        some (.int (digits.foldl (fun n d => n * 10 + (d.toNat - 48)) 0 : ℕ),
          rest.dropWhile Char.isDigit)
      else none
    | [] => none

def parseFields : ℕ → List Char → Option (List (String × Value) × List Char)
  | 0, _ => none
  | fuel + 1, text =>
    match text with
    | '"' :: rest => do
      let (name, rest) ← parseString rest
      match rest with
      | ':' :: rest => do
        let (value, rest) ← parseValue fuel rest
        match rest with
        | '}' :: rest => some ([(String.ofList name, value)], rest)
        | ',' :: rest => do
          let (fields, rest) ← parseFields fuel rest
          return ((String.ofList name, value) :: fields, rest)
        | _ => none
      | _ => none
    | _ => none

end

def parse (text : List Char) : Option Value :=
  match parseValue text.length text with
  | some (value, []) => some value
  | _ => none

/-! ### Reading what has been written -/

lemma unicodeChar?_escape {n : ℕ} (h : n < 65536) :
    unicodeChar? (hexDigit (n / 4096)) (hexDigit (n / 256 % 16)) (hexDigit (n / 16 % 16))
      (hexDigit (n % 16)) = if 0xD800 ≤ n ∧ n ≤ 0xDFFF then none else some (Char.ofNat n) := by
  have hn : n / 4096 * 4096 + n / 256 % 16 * 256 + n / 16 % 16 * 16 + n % 16 = n := by omega
  simp only [unicodeChar?, hexValue?_hexDigit (show n / 4096 < 16 by omega),
    hexValue?_hexDigit (show n / 256 % 16 < 16 by omega),
    hexValue?_hexDigit (show n / 16 % 16 < 16 by omega),
    hexValue?_hexDigit (show n % 16 < 16 by omega), Option.bind_eq_bind, Option.bind_some, hn]

lemma parseString_unicodeEscape {n : ℕ} (h : n < 65536) (rest : List Char) :
    parseString (unicodeEscape n ++ rest) =
      if 0xD800 ≤ n ∧ n ≤ 0xDFFF then none
      else (parseString rest).map fun p => (Char.ofNat n :: p.1, p.2) := by
  simp only [unicodeEscape, List.cons_append, List.nil_append, parseString,
    unicodeChar?_escape h]
  split
  · rfl
  · cases parseString rest <;> rfl

lemma eq_ofNat {c : Char} {n : ℕ} (h : c.toNat = n) : c = Char.ofNat n := by
  rw [← h, Char.ofNat_toNat]

lemma parseString_escapeChar (c : Char) (rest : List Char) :
    parseString (escapeChar c ++ rest) = (parseString rest).map fun p => (c :: p.1, p.2) := by
  unfold escapeChar
  split_ifs with h1 h2 h3 h4 h5 h6 h7 h8
  · subst h1
    cases hrest : parseString rest <;> simp [parseString, hrest]
  · subst h2
    cases hrest : parseString rest <;> simp [parseString, hrest]
  · rw [eq_ofNat h3]
    cases hrest : parseString rest <;> simp [parseString, hrest]
  · rw [eq_ofNat h4]
    cases hrest : parseString rest <;> simp [parseString, hrest]
  · rw [eq_ofNat h5]
    cases hrest : parseString rest <;> simp [parseString, hrest]
  · rw [eq_ofNat h6]
    cases hrest : parseString rest <;> simp [parseString, hrest]
  · rw [eq_ofNat h7]
    cases hrest : parseString rest <;> simp [parseString, hrest]
  · rw [parseString_unicodeEscape (by omega), if_neg (by omega), Char.ofNat_toNat]
  · cases hrest : parseString rest <;> simp [parseString, hrest, h2, h8]

/-- Reading one code point, which fails on a lone surrogate. -/
lemma parseString_escape (codePoint : CodePoint) (rest : List Char) :
    parseString (escape codePoint ++ rest) =
      codePoint.scalar?.bind fun c => (parseString rest).map fun p => (c :: p.1, p.2) := by
  cases codePoint with
  | scalar c => exact parseString_escapeChar c rest
  | lone unit surrogate =>
    have hunit := unit.toNat_lt
    have hrange : 0xD800 ≤ unit.toNat ∧ unit.toNat ≤ 0xDFFF := by
      simp only [Utf16.isSurrogate, Utf16.isHigh, Utf16.isLow, Bool.or_eq_true, Bool.and_eq_true,
        decide_eq_true_eq, UInt16.le_iff_toNat_le] at surrogate
      simp at surrogate
      omega
    rw [escape, parseString_unicodeEscape (by omega), if_pos hrange]
    rfl

/-- A quoted text is read back, if it is well formed. -/
lemma parseString_quote (codePoints : List CodePoint) (rest : List Char) :
    parseString (codePoints.flatMap escape ++ '"' :: rest) =
      (codePoints.mapM CodePoint.scalar?).map fun chars => (chars, rest) := by
  induction codePoints with
  | nil => rfl
  | cons codePoint codePoints ih =>
    rw [List.flatMap_cons, List.append_assoc, parseString_escape, ih, List.mapM_cons]
    cases codePoint.scalar? with
    | none => rfl
    | some c => cases codePoints.mapM CodePoint.scalar? <;> rfl

lemma mapM_scalar (chars : List Char) :
    (chars.map CodePoint.scalar).mapM CodePoint.scalar? = some chars := by
  induction chars with
  | nil => rfl
  | cons c chars ih => simp [List.mapM_cons, CodePoint.scalar?, ih]

/-- The text is that of a value, or of none if a string in it is not well formed. -/
def Reads (text : List Char) (value : Option Value) : Prop :=
  ∀ fuel rest, text.length ≤ fuel →
    parseValue fuel (text ++ rest) = value.map fun value => (value, rest)

lemma reads_quote (codePoints : List CodePoint) :
    Reads (quote codePoints)
      ((codePoints.mapM CodePoint.scalar?).map fun chars => .str (String.ofList chars)) := by
  intro fuel rest hfuel
  obtain ⟨fuel, rfl⟩ : ∃ n, fuel = n + 1 := by
    apply Nat.exists_eq_add_one_of_ne_zero
    rintro rfl
    simp [quote] at hfuel
  simp only [quote, List.cons_append, List.append_assoc, parseValue, parseString_quote,
    Option.map_map]
  rfl

/-- A field is read, and then the rest of its object. -/
lemma parseFields_field (name : String) {text : List Char} {value : Option Value}
    (hvalue : Reads text value) {fuel : ℕ} (hfuel : text.length ≤ fuel) (rest : List Char) :
    parseFields (fuel + 1) (quote (name.toList.map .scalar) ++ ':' :: (text ++ rest)) =
      value.bind fun value => match rest with
        | '}' :: rest => some ([(name, value)], rest)
        | ',' :: rest => (parseFields fuel rest).map fun p => ((name, value) :: p.1, p.2)
        | _ => none := by
  simp only [quote, List.cons_append, List.append_assoc, parseFields, parseString_quote,
    mapM_scalar, Option.map_some, Option.bind_eq_bind, Option.bind_some, List.nil_append,
    hvalue fuel rest hfuel, String.ofList_toList]
  cases value with
  | none => rfl
  | some value =>
    simp only [Option.map_some, Option.bind_some]
    split
    · rfl
    · cases parseFields fuel _ <;> rfl
    · rfl

section Objects

variable {α : Type*} (name : α → String) (text : α → List Char) (value : α → Option Value)

def fieldTexts (items : List α) : List (String × List Char) := items.map fun a => (name a, text a)

def fieldValues (items : List α) : Option (List (String × Value)) :=
  items.mapM fun a => (value a).map fun v => (name a, v)

lemma fieldValues_cons (a : α) (items : List α) :
    fieldValues name value (a :: items) = (value a).bind fun v =>
      (fieldValues name value items).map fun fields => (name a, v) :: fields := by
  rw [fieldValues, fieldValues, List.mapM_cons]
  cases value a with
  | none => rfl
  | some v => cases items.mapM fun a => (value a).map fun v => (name a, v) <;> rfl

lemma parseFields_fieldsText {items : List α} (hne : items ≠ [])
    (h : ∀ a ∈ items, Reads (text a) (value a)) {fuel : ℕ} (rest : List Char)
    (hfuel : (fieldsText (fieldTexts name text items)).length ≤ fuel) :
    parseFields fuel (fieldsText (fieldTexts name text items) ++ rest) =
      (fieldValues name value items).map fun fields => (fields, rest) := by
  induction items generalizing fuel with
  | nil => exact absurd rfl hne
  | cons a items ih =>
    have ha := h a List.mem_cons_self
    cases items with
    | nil =>
      simp only [fieldTexts, List.map_cons, List.map_nil, fieldsText, List.length_append,
        List.length_cons] at hfuel
      obtain ⟨fuel, rfl⟩ : ∃ n, fuel = n + 1 := Nat.exists_eq_add_one_of_ne_zero (by omega)
      simp only [fieldTexts, List.map_cons, List.map_nil, fieldsText, List.append_assoc,
        List.cons_append, List.nil_append]
      rw [parseFields_field (name a) ha (by omega)]
      simp only [fieldValues, List.mapM_cons, List.mapM_nil]
      cases value a <;> rfl
    | cons b items =>
      simp only [fieldTexts, List.map_cons, fieldsText, List.length_append,
        List.length_cons] at hfuel
      obtain ⟨fuel, rfl⟩ : ∃ n, fuel = n + 1 := Nat.exists_eq_add_one_of_ne_zero (by omega)
      have hlength : (fieldsText (fieldTexts name text (b :: items))).length ≤ fuel := by
        simp only [fieldTexts, List.map_cons]
        omega
      have hrest := ih (List.cons_ne_nil b items) (fun c hc => h c (List.mem_cons_of_mem a hc))
        hlength
      simp only [fieldTexts, List.map_cons] at hrest
      simp only [fieldTexts, List.map_cons, fieldsText, List.append_assoc, List.cons_append]
      rw [parseFields_field (name a) ha (by omega)]
      simp only [hrest, fieldValues_cons name value a]
      cases value a with
      | none => rfl
      | some v => cases fieldValues name value (b :: items) <;> rfl

/-- An object of readable fields is readable. -/
theorem reads_object (items : List α) (h : ∀ a ∈ items, Reads (text a) (value a)) :
    Reads (objectText (fieldTexts name text items)) ((fieldValues name value items).map .obj) := by
  intro fuel rest hfuel
  simp only [objectText, List.length_cons] at hfuel
  obtain ⟨fuel, rfl⟩ : ∃ n, fuel = n + 1 := Nat.exists_eq_add_one_of_ne_zero (by omega)
  cases items with
  | nil => rfl
  | cons a items =>
    have hfields := parseFields_fieldsText name text value (List.cons_ne_nil a items) h rest
      (Nat.le_of_succ_le_succ hfuel)
    have hquote : ∃ tail, fieldsText (fieldTexts name text (a :: items)) ++ rest = '"' :: tail := by
      cases items <;> exact ⟨_, rfl⟩
    obtain ⟨tail, htail⟩ := hquote
    rw [htail] at hfields
    have hbrace : parseValue (fuel + 1) ('{' :: '"' :: tail) =
        (parseFields fuel ('"' :: tail)).map fun p => (.obj p.1, p.2) := rfl
    rw [objectText, List.cons_append, htail, hbrace, hfields, Option.map_map, Option.map_map]
    rfl

end Objects

theorem parse_of_reads {text : List Char} {value : Option Value} (h : Reads text value) :
    parse text = value := by
  have hparse := h text.length [] le_rfl
  rw [List.append_nil] at hparse
  rw [parse, hparse]
  cases value <;> rfl

end Json
