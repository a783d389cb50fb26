import VTNet.Lib.Json
import Mathlib.Algebra.Order.BigOperators.Group.List

/-!
# JSON trees as texts

The text that a compact writer gives to a tree, how large it gets, and a parser of such texts. An
object has its fields as they are written; a tree is canonical if a map from names has them so.
-/

namespace Json

open String (utf8Len)

/-! ### Folds over trees -/

/-- What a fold makes of each kind of node. -/
structure Algebra (α : Type*) where
  null : α
  bool : Bool → α
  int : ℤ → α
  float : String → α
  str : String → α
  arr : List α → α
  obj : List (String × α) → α

namespace Value

section Fold

variable {α : Type*} (algebra : Algebra α)

mutual

def fold : Value → α
  | .null => algebra.null
  | .bool value => algebra.bool value
  | .int value => algebra.int value
  | .float digits => algebra.float digits
  | .str value => algebra.str value
  | .arr items => algebra.arr (foldItems items)
  | .obj fields => algebra.obj (foldFields fields)

def foldItems : List Value → List α
  | [] => []
  | item :: items => fold item :: foldItems items

def foldFields : List (String × Value) → List (String × α)
  | [] => []
  | (name, value) :: fields => (name, fold value) :: foldFields fields

end

lemma foldItems_eq_map (items : List Value) :
    foldItems algebra items = items.map (fold algebra) := by
  induction items with
  | nil => rfl
  | cons item items ih => rw [foldItems, ih, List.map_cons]

lemma foldFields_eq_map (fields : List (String × Value)) :
    foldFields algebra fields = fields.map fun field => (field.1, fold algebra field.2) := by
  induction fields with
  | nil => rfl
  | cons field fields ih => rw [foldFields, ih, List.map_cons]

lemma fold_arr (items : List Value) :
    fold algebra (.arr items) = algebra.arr (items.map (fold algebra)) := by
  rw [fold, foldItems_eq_map]

lemma fold_obj (fields : List (String × Value)) :
    fold algebra (.obj fields) =
      algebra.obj (fields.map fun field => (field.1, fold algebra field.2)) := by
  rw [fold, foldFields_eq_map]

end Fold

/-- Induction over a tree, with the hypothesis for every item of an array and every field of an
object. -/
@[elab_as_elim]
theorem induction {motive : Value → Prop} (value : Value) (null : motive .null)
    (bool : ∀ value, motive (.bool value)) (int : ∀ value, motive (.int value))
    (float : ∀ digits, motive (.float digits)) (str : ∀ value, motive (.str value))
    (arr : ∀ items, (∀ item ∈ items, motive item) → motive (.arr items))
    (obj : ∀ fields, (∀ field ∈ fields, motive field.2) → motive (.obj fields)) :
    motive value := by
  apply @Value.rec motive (fun items => ∀ item ∈ items, motive item)
    (fun fields => ∀ field ∈ fields, motive field.2) (fun field => motive field.2) null bool int
    float str arr obj
  · simp
  · intro item items hitem hitems
    exact List.forall_mem_cons.mpr ⟨hitem, hitems⟩
  · simp
  · intro field fields hfield hfields
    exact List.forall_mem_cons.mpr ⟨hfield, hfields⟩
  · intro name value hvalue
    exact hvalue

end Value

/-! ### Fields in the order of their names -/

section Fields

variable {α : Type*}

/-- The fields as a map holds them: in the order of their names, and the last one of each name. -/
def sortFields (fields : List (String × α)) : List (String × α) :=
  (Std.TreeMap.ofList fields compare).toList

def Ascending (fields : List (String × α)) : Prop :=
  fields.Pairwise fun field next => field.1 < next.1

instance decidableAscending (fields : List (String × α)) : Decidable (Ascending fields) :=
  inferInstanceAs (Decidable (fields.Pairwise fun field next => field.1 < next.1))

lemma ascending_map {β : Type*} (f : α → β) {fields : List (String × α)} :
    Ascending (fields.map fun field => (field.1, f field.2)) ↔ Ascending fields :=
  List.pairwise_map

lemma ascending_sortFields (fields : List (String × α)) : Ascending (sortFields fields) :=
  (@Std.TreeMap.ordered_keys_toList _ _ compare _ _).imp compareOfLessAndEq_eq_lt.mp

lemma mem_of_mem_insertMany {map : Std.TreeMap String α compare} {fields : List (String × α)}
    {field : String × α} (h : field ∈ (map.insertMany fields).toList) :
    field ∈ map.toList ∨ field ∈ fields := by
  induction fields generalizing map with
  | nil => exact Or.inl h
  | cons first fields ih =>
    rw [Std.TreeMap.insertMany_cons] at h
    rcases ih h with hmap | hfields
    · rw [Std.TreeMap.mem_toList_iff_getElem?_eq_some, Std.TreeMap.getElem?_insert] at hmap
      split_ifs at hmap with hname
      · have hfirst : field = first :=
          Prod.ext (Std.LawfulEqOrd.eq_of_compare hname).symm (Option.some.inj hmap).symm
        exact Or.inr (hfirst ▸ List.mem_cons_self)
      · exact Or.inl (Std.TreeMap.mem_toList_iff_getElem?_eq_some.mpr hmap)
    · exact Or.inr (List.mem_cons_of_mem first hfields)

lemma mem_of_mem_sortFields {fields : List (String × α)} {field : String × α}
    (h : field ∈ sortFields fields) : field ∈ fields := by
  rw [sortFields, Std.TreeMap.ofList_eq_insertMany_empty] at h
  apply (mem_of_mem_insertMany h).resolve_left
  rw [Std.TreeMap.mem_toList_iff_getElem?_eq_some, Std.TreeMap.getElem?_emptyc]
  nofun

lemma sortFields_of_ascending {fields : List (String × α)} (h : Ascending fields) :
    sortFields fields = fields := by
  have hdistinct : fields.Pairwise fun field next => ¬compare field.1 next.1 = .eq :=
    h.imp fun hlt heq => hlt.ne (Std.LawfulEqOrd.eq_of_compare heq)
  have hmem : ∀ field ∈ fields, field ∈ sortFields fields := by
    intro field hfield
    rw [sortFields, Std.TreeMap.mem_toList_iff_getElem?_eq_some]
    exact Std.TreeMap.getElem?_ofList_of_mem Std.ReflCmp.compare_self hdistinct hfield
  have hnodup {fields : List (String × α)} (h : Ascending fields) : fields.Nodup :=
    h.imp fun hlt heq => hlt.ne (congrArg Prod.fst heq)
  apply List.Perm.eq_of_pairwise (fun field next _ _ hlt hgt => absurd hlt hgt.asymm)
    (ascending_sortFields fields) h
  exact (List.perm_ext_iff_of_nodup (hnodup (ascending_sortFields fields)) (hnodup h)).mpr
    fun field => ⟨mem_of_mem_sortFields, hmem field⟩

end Fields

/-- The tree with the fields of every object as a map holds them. -/
def Value.canonical : Value → Value := Value.fold
  { null := .null
    bool := .bool
    int := .int
    float := .float
    str := .str
    arr := .arr
    obj := fun fields => .obj (sortFields fields) }

/-- The names of every object ascend. -/
def Value.isCanonical : Value → Bool := Value.fold
  { null := true
    bool := fun _ => true
    int := fun _ => true
    float := fun _ => true
    str := fun _ => true
    arr := fun items => items.all id
    obj := fun fields => decide (Ascending fields) && fields.all Prod.snd }

namespace Value

variable (items : List Value) (fields : List (String × Value))

lemma canonical_arr : (arr items).canonical = arr (items.map canonical) := fold_arr _ items

lemma canonical_obj :
    (obj fields).canonical =
      obj (sortFields (fields.map fun field => (field.1, field.2.canonical))) :=
  fold_obj _ fields

example :
    (obj [("b", .int 1), ("a", .obj [("d", .null), ("c", .null)]), ("b", .int 2)]).canonical =
      .obj [("a", .obj [("c", .null), ("d", .null)]), ("b", .int 2)] := by
  decide

@[simp] lemma isCanonical_arr : (arr items).isCanonical = items.all isCanonical := by
  rw [isCanonical, fold_arr]
  exact List.all_map

@[simp] lemma isCanonical_obj :
    (obj fields).isCanonical =
      (decide (Ascending fields) && fields.all fun field => field.2.isCanonical) := by
  simp only [isCanonical, fold_obj, ascending_map, List.all_map, Function.comp_def]

lemma isCanonical_canonical (value : Value) : value.canonical.isCanonical = true := by
  induction value using Value.induction with
  | null => rfl
  | bool value => rfl
  | int value => rfl
  | float digits => rfl
  | str value => rfl
  | arr items ih =>
    rw [canonical_arr, isCanonical_arr, List.all_map, List.all_eq_true]
    exact ih
  | obj fields ih =>
    rw [canonical_obj, isCanonical_obj, Bool.and_eq_true, List.all_eq_true]
    refine ⟨decide_eq_true (ascending_sortFields _), ?_⟩
    intro field hfield
    obtain ⟨source, hsource, rfl⟩ := List.mem_map.mp (mem_of_mem_sortFields hfield)
    exact ih source hsource

lemma canonical_of_isCanonical {value : Value} (h : value.isCanonical = true) :
    value.canonical = value := by
  induction value using Value.induction with
  | null => rfl
  | bool value => rfl
  | int value => rfl
  | float digits => rfl
  | str value => rfl
  | arr items ih =>
    rw [isCanonical_arr, List.all_eq_true] at h
    have hitems : items.map canonical = items.map id :=
      List.map_congr_left fun item hitem => ih item hitem (h item hitem)
    rw [canonical_arr, hitems, List.map_id]
  | obj fields ih =>
    rw [isCanonical_obj, Bool.and_eq_true, List.all_eq_true] at h
    obtain ⟨hascending, hvalues⟩ := h
    have hfields : (fields.map fun field => (field.1, field.2.canonical)) = fields.map id :=
      List.map_congr_left fun field hfield => Prod.ext rfl (ih field hfield (hvalues field hfield))
    rw [canonical_obj, hfields, List.map_id, sortFields_of_ascending (of_decide_eq_true hascending)]

end Value

/-! ### The text of a tree -/

def intText (n : ℤ) : List Char :=
  if n < 0 then '-' :: Nat.toDigits 10 n.natAbs else Nat.toDigits 10 n.natAbs

/-- The items of an array, given by their texts, up to its closing bracket. -/
def itemsText : List (List Char) → List Char
  | [] => [']']
  | [text] => text ++ [']']
  | text :: next :: texts => text ++ ',' :: itemsText (next :: texts)

def arrayText (texts : List (List Char)) : List Char := '[' :: itemsText texts

def writer : Algebra (List Char) where
  null := ['n', 'u', 'l', 'l']
  bool value := if value then ['t', 'r', 'u', 'e'] else ['f', 'a', 'l', 's', 'e']
  int := intText
  float digits := digits.toList
  str value := quote (value.toList.map .scalar)
  arr := arrayText
  obj := objectText

/-- The text of a tree, without white space. -/
def Value.text : Value → List Char := Value.fold writer

/-- Every number is an integer of 64 bits, with a sign or without. -/
def Value.integral : Value → Bool := Value.fold
  { null := true
    bool := fun _ => true
    int := fun value => -2 ^ 63 ≤ value ∧ value < 2 ^ 64
    float := fun _ => false
    str := fun _ => true
    arr := fun items => items.all id
    obj := fun fields => fields.all Prod.snd }

/-- How many arrays and objects there are around the innermost value. -/
def Value.depth : Value → ℕ := Value.fold
  { null := 0
    bool := fun _ => 0
    int := fun _ => 0
    float := fun _ => 0
    str := fun _ => 0
    arr := fun items => items.foldr max 0 + 1
    obj := fun fields => (fields.map Prod.snd).foldr max 0 + 1 }

/-- The size of the text of a tree when every byte of a string takes an escape of six bytes. -/
def Value.escapedSize : Value → ℕ := Value.fold
  { null := 4
    bool := fun _ => 5
    int := fun _ => 20
    float := fun digits => digits.utf8ByteSize
    str := fun value => 2 + 6 * value.utf8ByteSize
    arr := fun items => 2 + (items.map (1 + ·)).sum
    obj := fun fields => 2 + (fields.map fun field => 4 + 6 * field.1.utf8ByteSize + field.2).sum }

namespace Value

variable (items : List Value) (fields : List (String × Value))

lemma text_arr : (arr items).text = arrayText (items.map text) := fold_arr writer items

lemma text_obj : (obj fields).text = objectText (fields.map fun field => (field.1, field.2.text)) :=
  fold_obj writer fields

@[simp] lemma integral_arr : (arr items).integral = items.all integral := by
  rw [integral, fold_arr]
  exact List.all_map

@[simp] lemma integral_obj : (obj fields).integral = fields.all fun field => field.2.integral := by
  rw [integral, fold_obj]
  exact List.all_map

@[simp] lemma escapedSize_arr :
    (arr items).escapedSize = 2 + (items.map fun item => 1 + item.escapedSize).sum := by
  simp only [escapedSize, fold_arr, List.map_map, Function.comp_def]

@[simp] lemma depth_obj :
    (obj fields).depth = (fields.map fun field => field.2.depth).foldr max 0 + 1 := by
  simp only [depth, fold_obj, List.map_map, Function.comp_def]

@[simp] lemma escapedSize_obj :
    (obj fields).escapedSize =
      2 + (fields.map fun field => 4 + 6 * field.1.utf8ByteSize + field.2.escapedSize).sum := by
  simp only [escapedSize, fold_obj, List.map_map, Function.comp_def]

@[simp] lemma integral_str (value : String) : (str value).integral = true := rfl

lemma integral_natCast {n : ℕ} (h : n < 2 ^ 64) : (int n).integral = true := by
  have hrange : -2 ^ 63 ≤ (n : ℤ) ∧ (n : ℤ) < 2 ^ 64 := by omega
  rw [integral, fold, decide_eq_true_eq]
  exact hrange

@[simp] lemma depth_str (value : String) : (str value).depth = 0 := rfl

@[simp] lemma depth_int (n : ℤ) : (int n).depth = 0 := rfl

@[simp] lemma escapedSize_str (value : String) :
    (str value).escapedSize = 2 + 6 * value.utf8ByteSize := rfl

@[simp] lemma escapedSize_int (n : ℤ) : (int n).escapedSize = 20 := rfl

end Value

/-! ### Sizes of written trees -/

lemma length_le_utf8Len (chars : List Char) : chars.length ≤ utf8Len chars := by
  induction chars with
  | nil => exact le_rfl
  | cons c chars ih =>
    have hpos := c.utf8Size_pos
    rw [List.length_cons, String.utf8Len_cons]
    omega

lemma utf8Len_quoteString_le (value : String) :
    utf8Len (quote (value.toList.map .scalar)) ≤ 2 + 6 * value.utf8ByteSize := by
  have hquote := utf8Len_quote_le (value.toList.map .scalar)
  have hlength := length_le_utf8Len value.toList
  rw [List.length_map] at hquote
  rw [← String.utf8ByteSize_ofList, String.ofList_toList] at hlength
  omega

lemma utf8Len_of_digits {digits : List Char} (h : ∀ c ∈ digits, c.isDigit = true) :
    utf8Len digits = digits.length := by
  induction digits with
  | nil => rfl
  | cons c digits ih =>
    have hone : c.utf8Size = 1 := by
      have hdigit := h c List.mem_cons_self
      simp only [Char.isDigit, Bool.and_eq_true, decide_eq_true_eq] at hdigit
      rw [Char.utf8Size_eq_one_iff]
      exact UInt32.le_trans hdigit.2 (by decide)
    rw [String.utf8Len_cons, ih (fun d hd => h d (List.mem_cons_of_mem c hd)), hone,
      List.length_cons]

lemma isDigit_of_mem_toDigits {n : ℕ} {c : Char} (h : c ∈ Nat.toDigits 10 n) : c.isDigit = true :=
  Nat.isDigit_of_mem_toDigits (by decide) (by decide) h

lemma utf8Len_toDigits_le {n k : ℕ} (hk : 0 < k) (h : n < 10 ^ k) :
    utf8Len (Nat.toDigits 10 n) ≤ k := by
  rw [utf8Len_of_digits fun c => isDigit_of_mem_toDigits]
  exact (Nat.length_toDigits_le_iff (by decide) hk).mpr h

lemma utf8Len_intText_le {n : ℤ} (h : -2 ^ 63 ≤ n ∧ n < 2 ^ 64) : utf8Len (intText n) ≤ 20 := by
  unfold intText
  split_ifs with hsign
  · have hdigits := utf8Len_toDigits_le (k := 19) (by decide) (show n.natAbs < 10 ^ 19 by omega)
    have hminus : '-'.utf8Size = 1 := rfl
    rw [String.utf8Len_cons]
    omega
  · exact utf8Len_toDigits_le (by decide) (by omega)

lemma utf8Len_arrayText_le (texts : List (List Char)) :
    utf8Len (arrayText texts) ≤ 2 + (texts.map fun text => 1 + utf8Len text).sum := by
  have hopen : '['.utf8Size = 1 := rfl
  have hclose : ']'.utf8Size = 1 := rfl
  have hcomma : ','.utf8Size = 1 := rfl
  have hitems : utf8Len (itemsText texts) ≤ 1 + (texts.map fun text => 1 + utf8Len text).sum := by
    induction texts using itemsText.induct with
    | case1 => exact le_rfl
    | case2 text =>
      simp only [itemsText, String.utf8Len_append, String.utf8Len_cons, String.utf8Len_nil,
        List.map_cons, List.map_nil, List.sum_cons, List.sum_nil]
      omega
    | case3 text next texts ih =>
      simp only [itemsText, String.utf8Len_append, String.utf8Len_cons, List.map_cons,
        List.sum_cons] at ih ⊢
      omega
  rw [arrayText, String.utf8Len_cons]
  omega

lemma utf8Len_objectText_le (fields : List (String × List Char)) :
    utf8Len (objectText fields) ≤
      2 + (fields.map fun field => 4 + 6 * field.1.utf8ByteSize + utf8Len field.2).sum := by
  have hopen : '{'.utf8Size = 1 := rfl
  have hclose : '}'.utf8Size = 1 := rfl
  have hcolon : ':'.utf8Size = 1 := rfl
  have hcomma : ','.utf8Size = 1 := rfl
  have hfields : utf8Len (fieldsText fields) ≤
      1 + (fields.map fun field => 4 + 6 * field.1.utf8ByteSize + utf8Len field.2).sum := by
    induction fields using fieldsText.induct with
    | case1 => exact le_rfl
    | case2 name text =>
      have hname := utf8Len_quoteString_le name
      simp only [fieldsText, String.utf8Len_append, String.utf8Len_cons, String.utf8Len_nil,
        List.map_cons, List.map_nil, List.sum_cons, List.sum_nil]
      omega
    | case3 name text field fields ih =>
      have hname := utf8Len_quoteString_le name
      simp only [fieldsText, String.utf8Len_append, String.utf8Len_cons, List.map_cons,
        List.sum_cons] at ih ⊢
      omega
  rw [objectText, String.utf8Len_cons]
  omega

/-- The text of a tree is as large as its strings, every byte of them counted six times. -/
theorem utf8Len_text_le {value : Value} (h : value.integral = true) :
    utf8Len value.text ≤ value.escapedSize := by
  induction value using Value.induction with
  | null => decide
  | bool value => cases value <;> decide
  | int value => exact utf8Len_intText_le (of_decide_eq_true h)
  | float digits => cases h
  | str value => exact utf8Len_quoteString_le value
  | arr items ih =>
    have harray := utf8Len_arrayText_le (items.map Value.text)
    rw [Value.integral_arr, List.all_eq_true] at h
    rw [Value.text_arr, Value.escapedSize_arr]
    rw [List.map_map] at harray
    apply harray.trans
    apply Nat.add_le_add_left
    apply List.sum_le_sum
    intro item hitem
    exact Nat.add_le_add_left (ih item hitem (h item hitem)) 1
  | obj fields ih =>
    have hobject := utf8Len_objectText_le (fields.map fun field => (field.1, field.2.text))
    rw [Value.integral_obj, List.all_eq_true] at h
    rw [Value.text_obj, Value.escapedSize_obj]
    rw [List.map_map] at hobject
    apply hobject.trans
    apply Nat.add_le_add_left
    apply List.sum_le_sum
    intro field hfield
    exact Nat.add_le_add_left (ih field hfield (h field hfield)) _

/-! ### Reading trees -/

/-- The natural number that starts the text, with what follows it. -/
def parseNat (text : List Char) : Option (ℕ × List Char) :=
  let digits := text.takeWhile Char.isDigit
  if digits = [] then none
  else some (Nat.ofDigitChars 10 digits 0, text.dropWhile Char.isDigit)

def parseLiteral (literal : List Char) (value : Value) (text : List Char) :
    Option (Value × List Char) :=
  if literal.isPrefixOf text then some (value, text.drop literal.length) else none

mutual

/-- The tree that starts the text, with what follows it. White space is not skipped, and numbers are
integers. -/
def parseTree : ℕ → List Char → Option (Value × List Char)
  | 0, _ => none
  | _ + 1, [] => none
  | fuel + 1, c :: rest =>
    match c with
    | 'n' => parseLiteral ['u', 'l', 'l'] .null rest
    | 't' => parseLiteral ['r', 'u', 'e'] (.bool true) rest
    | 'f' => parseLiteral ['a', 'l', 's', 'e'] (.bool false) rest
    | '"' => (parseString rest).map fun (chars, rest) => (.str (String.ofList chars), rest)
    | '[' =>
      if rest.head? = some ']' then some (.arr [], rest.tail)
      else (parseItems fuel rest).map fun (items, rest) => (.arr items, rest)
    | '{' =>
      if rest.head? = some '}' then some (.obj [], rest.tail)
      else (parseMembers fuel rest).map fun (fields, rest) => (.obj fields, rest)
    | '-' => (parseNat rest).map fun (n, rest) => (.int (-n), rest)
    | _ => (parseNat (c :: rest)).map fun (n, rest) => (.int n, rest)

def parseItems : ℕ → List Char → Option (List Value × List Char)
  | 0, _ => none
  | fuel + 1, text =>
    (parseTree fuel text).bind fun (item, rest) =>
      match rest with
      | ']' :: rest => some ([item], rest)
      | ',' :: rest => (parseItems fuel rest).map fun (items, rest) => (item :: items, rest)
      | _ => none

def parseMembers : ℕ → List Char → Option (List (String × Value) × List Char)
  | 0, _ => none
  | fuel + 1, text =>
    match text with
    | '"' :: rest =>
      (parseString rest).bind fun (name, rest) =>
        match rest with
        | ':' :: rest =>
          (parseTree fuel rest).bind fun (value, rest) =>
            match rest with
            | '}' :: rest => some ([(String.ofList name, value)], rest)
            | ',' :: rest =>
              (parseMembers fuel rest).map fun (fields, rest) =>
                ((String.ofList name, value) :: fields, rest)
            | _ => none
        | _ => none
    | _ => none

end

def readTree (text : List Char) : Option Value :=
  match parseTree (text.length + 1) text with
  | some (value, []) => some value
  | _ => none

/-! ### Reading the text of a tree -/

/-- No digit follows that would belong to a number before it. -/
def Ends (rest : List Char) : Prop := ∀ c ∈ rest.head?, c.isDigit = false

lemma ends_cons {c : Char} (h : c.isDigit = false) (rest : List Char) : Ends (c :: rest) := by
  intro d hd
  cases hd
  exact h

lemma parseNat_toDigits (n : ℕ) {rest : List Char} (hrest : Ends rest) :
    parseNat (Nat.toDigits 10 n ++ rest) = some (n, rest) := by
  have hdigits : ∀ c ∈ Nat.toDigits 10 n, c.isDigit = true := fun c => isDigit_of_mem_toDigits
  have hstop : rest.takeWhile Char.isDigit = [] ∧ rest.dropWhile Char.isDigit = rest := by
    cases rest with
    | nil => exact ⟨rfl, rfl⟩
    | cons c rest => simp [hrest c rfl]
  rw [parseNat, List.takeWhile_append_of_pos hdigits, List.dropWhile_append_of_pos hdigits, hstop.1,
    hstop.2, List.append_nil, if_neg Nat.toDigits_ne_nil, Nat.ofDigitChars_ten_toDigits]

lemma parseTree_intText (n : ℤ) {fuel : ℕ} {rest : List Char} (hrest : Ends rest) :
    parseTree (fuel + 1) (intText n ++ rest) = some (.int n, rest) := by
  unfold intText
  split_ifs with hsign
  · have hn : -(n.natAbs : ℤ) = n := by omega
    simp only [List.cons_append, parseTree, parseNat_toDigits _ hrest, Option.map_some, hn]
  · have hnat := parseNat_toDigits n.natAbs hrest
    have hdigits : ∀ c ∈ Nat.toDigits 10 n.natAbs, c.isDigit = true :=
      fun c => isDigit_of_mem_toDigits
    cases hchars : Nat.toDigits 10 n.natAbs with
    | nil => exact absurd hchars Nat.toDigits_ne_nil
    | cons c digits =>
      have hc := hdigits c (by rw [hchars]; exact List.mem_cons_self)
      have hn : (n.natAbs : ℤ) = n := by omega
      rw [hchars, List.cons_append] at hnat
      rw [List.cons_append]
      unfold parseTree
      split
      all_goals first
        | exact absurd hc (by decide)
        | simp only [hnat, Option.map_some, hn]

/-- The tree is read back from its text, whatever follows. -/
def Value.Readable (value : Value) : Prop :=
  ∀ fuel rest, value.text.length ≤ fuel → Ends rest →
    parseTree (fuel + 1) (value.text ++ rest) = some (value, rest)

lemma parseItems_itemsText {items : List Value} (hne : items ≠ [])
    (h : ∀ item ∈ items, item.Readable) {fuel : ℕ} (rest : List Char)
    (hfuel : (itemsText (items.map Value.text)).length < fuel) :
    parseItems fuel (itemsText (items.map Value.text) ++ rest) = some (items, rest) := by
  induction items generalizing fuel with
  | nil => exact absurd rfl hne
  | cons item items ih =>
    have hitem := h item List.mem_cons_self
    cases items with
    | nil =>
      simp only [List.map_cons, List.map_nil, itemsText, List.length_append, List.length_cons]
        at hfuel
      obtain ⟨fuel, rfl⟩ : ∃ n, fuel = n + 2 := Nat.exists_eq_add_of_le' (by omega)
      have hread := hitem fuel (']' :: rest) (by omega) (ends_cons (by decide) rest)
      simp only [List.map_cons, List.map_nil, itemsText, List.append_assoc, List.cons_append,
        List.nil_append, parseItems, hread, Option.bind_some]
    | cons next items =>
      simp only [List.map_cons, itemsText, List.length_append, List.length_cons] at hfuel
      obtain ⟨fuel, rfl⟩ : ∃ n, fuel = n + 2 := Nat.exists_eq_add_of_le' (by omega)
      have hrest := ih (List.cons_ne_nil next items)
        (fun item hitem => h item (List.mem_cons_of_mem _ hitem))
        (show (itemsText ((next :: items).map Value.text)).length < fuel + 1 by
          simp only [List.map_cons]
          omega)
      simp only [List.map_cons] at hrest
      have hread := hitem fuel (',' :: (itemsText (next.text :: items.map Value.text) ++ rest))
        (by omega) (ends_cons (by decide) _)
      simp only [List.map_cons, itemsText, List.append_assoc, List.cons_append]
      rw [parseItems, hread, Option.bind_some]
      simp only [hrest, Option.map_some]

def memberTexts (fields : List (String × Value)) : List (String × List Char) :=
  fields.map fun field => (field.1, field.2.text)

lemma parseMembers_fieldsText {fields : List (String × Value)} (hne : fields ≠ [])
    (h : ∀ field ∈ fields, field.2.Readable) {fuel : ℕ} (rest : List Char)
    (hfuel : (fieldsText (memberTexts fields)).length < fuel) :
    parseMembers fuel (fieldsText (memberTexts fields) ++ rest) = some (fields, rest) := by
  induction fields generalizing fuel with
  | nil => exact absurd rfl hne
  | cons field fields ih =>
    have hfield := h field List.mem_cons_self
    cases fields with
    | nil =>
      simp only [memberTexts, List.map_cons, List.map_nil, fieldsText, List.length_append,
        List.length_cons] at hfuel
      obtain ⟨fuel, rfl⟩ : ∃ n, fuel = n + 2 := Nat.exists_eq_add_of_le' (by omega)
      have hread := hfield fuel ('}' :: rest) (by omega) (ends_cons (by decide) rest)
      simp only [memberTexts, List.map_cons, List.map_nil, fieldsText, quote, List.append_assoc,
        List.cons_append, List.nil_append, parseMembers, parseString_quote, mapM_scalar,
        Option.map_some, Option.bind_some, hread, String.ofList_toList]
    | cons next fields =>
      simp only [memberTexts, List.map_cons, fieldsText, List.length_append, List.length_cons]
        at hfuel
      obtain ⟨fuel, rfl⟩ : ∃ n, fuel = n + 2 := Nat.exists_eq_add_of_le' (by omega)
      have hrest := ih (List.cons_ne_nil next fields)
        (fun field hfield => h field (List.mem_cons_of_mem _ hfield))
        (show (fieldsText (memberTexts (next :: fields))).length < fuel + 1 by
          simp only [memberTexts, List.map_cons]
          omega)
      simp only [memberTexts, List.map_cons] at hrest
      have hread := hfield fuel (',' :: (fieldsText ((next.1, next.2.text) ::
        fields.map fun field => (field.1, field.2.text)) ++ rest)) (by omega)
        (ends_cons (by decide) _)
      simp only [memberTexts, List.map_cons, fieldsText, quote, List.append_assoc,
        List.cons_append, List.nil_append]
      rw [parseMembers, parseString_quote, mapM_scalar]
      simp only [Option.map_some, Option.bind_some, hread, hrest, String.ofList_toList]

lemma parseTree_close (fuel : ℕ) (rest : List Char) : parseTree fuel (']' :: rest) = none := by
  cases fuel with
  | zero => rfl
  | succ fuel => rfl

namespace Value

lemma readable_arr {items : List Value} (h : ∀ item ∈ items, item.Readable) :
    (arr items).Readable := by
  intro fuel rest hfuel _
  rw [text_arr, arrayText] at hfuel ⊢
  cases items with
  | nil => rfl
  | cons item items =>
    have hitems := parseItems_itemsText (List.cons_ne_nil item items) h rest hfuel
    -- No item is read from a text that starts with the closing bracket.
    have hopen : (itemsText ((item :: items).map text) ++ rest).head? ≠ some ']' := by
      intro hhead
      obtain ⟨tail, htail⟩ := List.head?_eq_some_iff.mp hhead
      rw [htail] at hitems
      cases fuel with
      | zero => cases hitems
      | succ fuel =>
        rw [parseItems, parseTree_close] at hitems
        cases hitems
    rw [List.cons_append, parseTree, if_neg hopen, hitems]
    rfl

lemma readable_obj {fields : List (String × Value)} (h : ∀ field ∈ fields, field.2.Readable) :
    (obj fields).Readable := by
  intro fuel rest hfuel _
  rw [text_obj, objectText] at hfuel ⊢
  cases fields with
  | nil => rfl
  | cons field fields =>
    have hfields := parseMembers_fieldsText (List.cons_ne_nil field fields) h rest hfuel
    have hopen : (fieldsText (memberTexts (field :: fields)) ++ rest).head? ≠ some '}' := by
      cases fields <;> simp [fieldsText, quote, memberTexts]
    rw [memberTexts] at hfields hopen
    rw [List.cons_append, parseTree, if_neg hopen, hfields]
    rfl

lemma readable_str (value : String) : (str value).Readable := by
  intro fuel rest _ _
  have hstring := parseString_quote (value.toList.map .scalar) rest
  rw [mapM_scalar, Option.map_some] at hstring
  have htext : (str value).text = quote (value.toList.map .scalar) := rfl
  simp only [htext, quote, List.append_assoc, List.cons_append, List.nil_append, parseTree,
    hstring, Option.map_some, String.ofList_toList]

lemma readable {value : Value} (h : value.integral = true) : value.Readable := by
  induction value using Value.induction with
  | null => exact fun _ _ _ _ => rfl
  | bool value => cases value <;> exact fun _ _ _ _ => rfl
  | int value => exact fun _ _ _ hrest => parseTree_intText value hrest
  | float digits => cases h
  | str value => exact readable_str value
  | arr items ih =>
    rw [integral_arr, List.all_eq_true] at h
    exact readable_arr fun item hitem => ih item hitem (h item hitem)
  | obj fields ih =>
    rw [integral_obj, List.all_eq_true] at h
    exact readable_obj fun field hfield => ih field hfield (h field hfield)

end Value

/-- A tree of integers is read back from its text. -/
theorem readTree_text {value : Value} (h : value.integral = true) :
    readTree value.text = some value := by
  have hread := Value.readable h value.text.length [] le_rfl (fun c hc => by cases hc)
  rw [List.append_nil] at hread
  rw [readTree, hread]

end Json
