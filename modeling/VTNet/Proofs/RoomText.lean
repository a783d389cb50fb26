import VTNet.Page
import VTNet.Reference

/-!
# The room that a user types

Every text that the form takes is the text of a room, in either case.
-/

namespace VTNet

/-- `Uuid::parse_str` reads the hyphenated form, with digits in either case. -/
def Crates.ReadsEitherCase (crates : Crates) : Prop :=
  ∀ (uuid : Uuid) (text : String), text.toList.map Char.toLower = uuid.hyphenated.toList →
    crates.parseUuid text = some uuid

namespace Proofs

open Bytes

/-! ### Digits -/

lemma exists_hexDigit {c : Char} (h : isHexDigit c = true) : ∃ n < 16, c.toLower = hexDigit n := by
  have hall : ∀ m : Fin 128, isHexDigit (Char.ofNat m) = true →
      ∃ n : Fin 16, (Char.ofNat m).toLower = hexDigit n := by decide
  have hsmall : c.toNat < 128 := by
    simp only [isHexDigit, Bool.or_eq_true, Bool.and_eq_true, decide_eq_true_eq] at h
    rcases h with (⟨-, h⟩ | ⟨-, h⟩) | ⟨-, h⟩
    · exact Nat.lt_of_le_of_lt (Char.le_def.mp h) (by decide)
    · exact Nat.lt_of_le_of_lt (Char.le_def.mp h) (by decide)
    · exact Nat.lt_of_le_of_lt (Char.le_def.mp h) (by decide)
  have hdigit := hall ⟨c.toNat, hsmall⟩
  rw [Char.ofNat_toNat] at hdigit
  obtain ⟨n, hn⟩ := hdigit h
  exact ⟨n, n.isLt, hn⟩

lemma lowerHex_pair {n m : ℕ} (hn : n < 16) (hm : m < 16) :
    lowerHex (UInt8.ofNat (n * 16 + m)) = [hexDigit n, hexDigit m] := by
  have hbyte : (UInt8.ofNat (n * 16 + m)).toNat = n * 16 + m := by
    rw [UInt8.toNat_ofNat']
    omega
  rw [lowerHex, hbyte]
  congr 2
  · omega
  · congr 1
    omega

/-- Digits in either case are the digits of bytes. -/
lemma exists_bytes (n : ℕ) {digits : List Char} (hlength : digits.length = 2 * n)
    (h : ∀ c ∈ digits, isHexDigit c = true) :
    ∃ bytes : List UInt8, bytes.length = n ∧
      bytes.flatMap lowerHex = digits.map Char.toLower := by
  induction n generalizing digits with
  | zero =>
    rw [List.length_eq_zero_iff.mp hlength]
    exact ⟨[], rfl, rfl⟩
  | succ n ih =>
    match digits, hlength with
    | high :: low :: rest, hlength =>
      simp only [List.forall_mem_cons] at h
      obtain ⟨v, hv, hhigh⟩ := exists_hexDigit h.1
      obtain ⟨w, hw, hlow⟩ := exists_hexDigit h.2.1
      have hrest : rest.length = 2 * n := by
        simp only [List.length_cons] at hlength
        omega
      obtain ⟨bytes, hbytes, hdigits⟩ := ih hrest h.2.2
      refine ⟨UInt8.ofNat (v * 16 + w) :: bytes, congrArg _ hbytes, ?_⟩
      rw [List.flatMap_cons, lowerHex_pair hv hw, hdigits, List.map_cons, List.map_cons, hhigh,
        hlow]
      rfl

/-! ### Rooms -/

/-- The five groups of the hyphenated form. -/
lemma hyphenated_groups {as bs cs ds es : List UInt8} (has : as.length = 4) (hbs : bs.length = 2)
    (hcs : cs.length = 2) (hds : ds.length = 2) (hes : es.length = 6)
    (hlength : (as ++ bs ++ cs ++ ds ++ es).length = 16) :
    (Uuid.mk ⟨as ++ bs ++ cs ++ ds ++ es, hlength⟩).hyphenated.toList =
      as.flatMap lowerHex ++ '-' :: bs.flatMap lowerHex ++ '-' :: cs.flatMap lowerHex ++
        '-' :: ds.flatMap lowerHex ++ '-' :: es.flatMap lowerHex := by
  have hdrop : ∀ {bytes : List UInt8} {n : ℕ}, bytes.length ≤ n → bytes.drop n = [] :=
    List.drop_eq_nil_of_le
  simp (disch := omega) only [Uuid.hyphenated, String.toList_ofList, List.append_assoc,
    List.drop_append, List.take_append, List.length_drop, hdrop, has, hbs, hcs, hds]
  simp [List.take_of_length_le has.le, List.take_of_length_le hbs.le,
    List.take_of_length_le hcs.le, List.take_of_length_le hds.le, List.take_of_length_le hes.le]

/-- What the form takes is the hyphenated form of a UUID, but for the case of its digits. -/
lemma exists_uuid {value : String} (h : isUuid value = true) :
    ∃ uuid : Uuid, value.toList.map Char.toLower = uuid.hyphenated.toList := by
  have hjoin : ['-'].intercalate (value.toList.splitOn '-') = value.toList :=
    List.intercalate_splitOn '-'
  unfold isUuid at h
  split at h
  · rename_i a b c d e hgroups
    rw [hgroups] at hjoin
    simp only [List.all_cons, List.all_nil, Bool.and_true, Bool.and_eq_true, decide_eq_true_eq,
      List.all_eq_true] at h
    obtain ⟨⟨⟨⟨ha, hadigits⟩, ⟨hb, hbdigits⟩, ⟨hc, hcdigits⟩, ⟨hd, hddigits⟩, he, hedigits⟩, -⟩,
      -⟩ := h
    obtain ⟨as, has, haslow⟩ := exists_bytes 4 ha hadigits
    obtain ⟨bs, hbs, hbslow⟩ := exists_bytes 2 hb hbdigits
    obtain ⟨cs, hcs, hcslow⟩ := exists_bytes 2 hc hcdigits
    obtain ⟨ds, hds, hdslow⟩ := exists_bytes 2 hd hddigits
    obtain ⟨es, hes, heslow⟩ := exists_bytes 6 he hedigits
    have hlength : (as ++ bs ++ cs ++ ds ++ es).length = 16 := by
      simp only [List.length_append, has, hbs, hcs, hds, hes]
    refine ⟨⟨⟨as ++ bs ++ cs ++ ds ++ es, hlength⟩⟩, ?_⟩
    have hhyphen : '-'.toLower = '-' := by decide
    rw [hyphenated_groups has hbs hcs hds hes, haslow, hbslow, hcslow, hdslow, heslow, ← hjoin]
    simp [List.intercalate, hhyphen]
  · cases h

/-! ### The reference parser -/

/-- What holds of the ASCII characters and does not depend on the case. -/
lemma toLower_induction {P : Char → Char → Prop} (refl : ∀ c, P c c)
    (ascii : ∀ m : Fin 128, P (Char.ofNat m).toLower (Char.ofNat m)) (c : Char) : P c.toLower c := by
  by_cases hsmall : c.toNat < 128
  · have hc := ascii ⟨c.toNat, hsmall⟩
    rwa [Char.ofNat_toNat] at hc
  · have hsame : c.toLower = c := by
      unfold Char.toLower
      rw [dif_neg]
      rintro ⟨-, h⟩
      exact hsmall (Nat.lt_of_le_of_lt (UInt32.le_iff_toNat_le.mp h) (by decide))
    rw [hsame]
    exact refl c

lemma hexValue?_toLower (c : Char) : hexValue? c.toLower = hexValue? c :=
  toLower_induction (P := fun low c => hexValue? low = hexValue? c) (fun _ => rfl) (by decide) c

lemma toLower_eq_hyphen (c : Char) : c.toLower = '-' ↔ c = '-' :=
  toLower_induction (P := fun low c => low = '-' ↔ c = '-') (fun _ => Iff.rfl) (by decide) c

lemma hexBytes?_toLower (digits : List Char) :
    Reference.hexBytes? (digits.map Char.toLower) = Reference.hexBytes? digits := by
  fun_induction Reference.hexBytes? digits with
  | case1 => rfl
  | case2 high low rest ih =>
    simp only [List.map_cons, Reference.hexBytes?, Bytes.hexByte?, hexValue?_toLower, ih]
  | case3 c => rfl

lemma parseUuid_toLower (text : String) :
    Reference.parseUuid (String.ofList (text.toList.map Char.toLower)) =
      Reference.parseUuid text := by
  have hhyphen : ∀ i : ℕ, (text.toList.map Char.toLower)[i]? = some '-' ↔
      text.toList[i]? = some '-' := by
    intro i
    rw [List.getElem?_map, Option.map_eq_some_iff]
    simp [toLower_eq_hyphen]
  simp only [Reference.parseUuid, String.toList_ofList, List.length_map, hhyphen, ← List.map_take,
    ← List.map_drop, ← List.map_append, hexBytes?_toLower]

lemma reference_readsEitherCase : Reference.crates.ReadsEitherCase := by
  intro uuid text h
  have hlower := parseUuid_toLower text
  rw [h, String.ofList_toList] at hlower
  exact hlower.symm.trans (Reference.parseUuid_hyphenated uuid)

end Proofs

end VTNet
