import Mathlib.Data.List.Basic
import VTNet.Lib.Bytes

/-!
# Self-delimiting layouts

A layout writes values as lists of symbols and reads a value back from the front of whatever
follows it. Layouts are built field by field.
-/

/-- The reader accepts exactly what the writer has written, with any rest. -/
structure Layout (β α : Type*) where
  write : α → List β
  read : List β → Option (α × List β)
  read_eq_some : ∀ {input rest : List β} {a : α},
    read input = some (a, rest) ↔ input = write a ++ rest

namespace Layout

variable {α β γ : Type*} (layout : Layout β α)

/-- One value and nothing after it. -/
def decode (input : List β) : Option α :=
  match layout.read input with
  | some (a, []) => some a
  | _ => none

variable {layout}

lemma read_write (a : α) (rest : List β) : layout.read (layout.write a ++ rest) = some (a, rest) :=
  layout.read_eq_some.mpr rfl

theorem decode_eq_some {input : List β} {a : α} :
    layout.decode input = some a ↔ input = layout.write a := by
  have hread : layout.read input = some (a, []) ↔ input = layout.write a ++ [] :=
    layout.read_eq_some
  rw [List.append_nil] at hread
  rw [← hread]
  unfold decode
  split <;> simp_all

lemma decode_write (a : α) : layout.decode (layout.write a) = some a := decode_eq_some.mpr rfl

/-- What is not a written value is rejected. -/
theorem decode_eq_none {input : List β} :
    layout.decode input = none ↔ ∀ a, input ≠ layout.write a := by
  rw [Option.eq_none_iff_forall_ne_some]
  exact forall_congr' fun a => not_congr decode_eq_some

/-- No written value stands in front of another one. -/
theorem eq_of_isPrefix {a b : α} (h : layout.write a <+: layout.write b) : a = b := by
  obtain ⟨rest, hrest⟩ := h
  have hread := layout.read_write a rest
  have hb := layout.read_write b []
  rw [List.append_nil, ← hrest, hread] at hb
  exact congrArg Prod.fst (Option.some.inj hb)

theorem write_injective : Function.Injective layout.write := by
  intro a b h
  have ha := layout.decode_write a
  rw [h, layout.decode_write b] at ha
  exact (Option.some.inj ha).symm

/-! ### Building layouts -/

/-- Fixed symbols in front. -/
def tagged [DecidableEq β] (tag : List β) (layout : Layout β α) : Layout β α where
  write a := tag ++ layout.write a
  read input := (tag.isPrefixOf? input).bind layout.read
  read_eq_some {input rest a} := by
    rw [Option.bind_eq_some_iff]
    simp only [List.isPrefixOf?_eq_some_iff_append_eq, layout.read_eq_some, List.append_assoc]
    constructor
    · rintro ⟨afterTag, hinput, rfl⟩
      exact hinput.symm
    · intro hinput
      exact ⟨_, hinput.symm, rfl⟩

/-- One field after the other. -/
def append (first : Layout β α) (second : Layout β γ) : Layout β (α × γ) where
  write fields := first.write fields.1 ++ second.write fields.2
  read input := (first.read input).bind fun (a, afterFirst) =>
    (second.read afterFirst).map fun (c, rest) => ((a, c), rest)
  read_eq_some {input rest fields} := by
    constructor
    · intro h
      obtain ⟨⟨a, afterFirst⟩, hfirst, h⟩ := Option.bind_eq_some_iff.mp h
      obtain ⟨⟨c, afterSecond⟩, hsecond, h⟩ := Option.map_eq_some_iff.mp h
      cases h
      rw [first.read_eq_some.mp hfirst, second.read_eq_some.mp hsecond, List.append_assoc]
    · intro h
      simp only [h, List.append_assoc, read_write, Option.bind_some, Option.map_some]

/-- Another representation of the values. -/
def map (layout : Layout β α) (e : α ≃ γ) : Layout β γ where
  write c := layout.write (e.symm c)
  read input := (layout.read input).map fun (a, rest) => (e a, rest)
  read_eq_some {input rest c} := by
    rw [← layout.read_eq_some, Option.map_eq_some_iff]
    constructor
    · rintro ⟨⟨a, afterField⟩, hread, h⟩
      cases h
      rwa [e.symm_apply_apply]
    · intro hread
      exact ⟨_, hread, congrArg (fun d => (d, rest)) (e.apply_symm_apply c)⟩

/-! ### Fields of bytes -/

def bytes (n : ℕ) : Layout UInt8 (Bytes.Fixed n) where
  write := Bytes.Fixed.toList
  read input := (Bytes.Fixed.ofList? n (input.take n)).map fun field => (field, input.drop n)
  read_eq_some {input rest field} := by
    rw [Option.map_eq_some_iff]
    constructor
    · rintro ⟨taken, htaken, h⟩
      cases h
      unfold Bytes.Fixed.ofList? at htaken
      split at htaken
      · cases htaken
        exact (List.take_append_drop n input).symm
      · cases htaken
    · rintro rfl
      refine ⟨field, ?_, ?_⟩
      · rw [List.take_left' field.length_toList, Bytes.Fixed.ofList?_toList]
      · rw [List.drop_left' field.length_toList]

def uint16BigEndian : Layout UInt8 UInt16 :=
  (bytes 2).map ((Bytes.bigEndian 2).trans ⟨UInt16.ofFin, UInt16.toFin, fun _ => rfl, fun _ => rfl⟩)

def uint64BigEndian : Layout UInt8 UInt64 :=
  (bytes 8).map ((Bytes.bigEndian 8).trans ⟨UInt64.ofFin, UInt64.toFin, fun _ => rfl, fun _ => rfl⟩)

end Layout
