import VTNet.Reference

/-!
# Chat texts from the form to the server

The form and the server check a chat text by rules of their own. What the server decodes is
compared with what the form sends for every text that the input lets the user type.
-/

namespace VTNet.Proofs

open Utf16 (codePoints toChars?)
open Json (quote objectText fieldsText utf8Len_quote_le)
open String (utf8Len)

/-! ### The frame fits -/

lemma length_lowerHex (bytes : List UInt8) :
    (bytes.flatMap Bytes.lowerHex).length = 2 * bytes.length := by
  induction bytes with
  | nil => rfl
  | cons byte bytes ih =>
    rw [List.flatMap_cons, List.length_append, ih, List.length_cons, Bytes.lowerHex]
    simp only [List.length_cons, List.length_nil]
    omega

lemma length_hyphenated (uuid : Uuid) : uuid.hyphenated.toList.length = 36 := by
  obtain ⟨bytes, hlength⟩ := uuid
  simp only [Uuid.hyphenated, String.toList_ofList, List.length_append, List.length_cons,
    length_lowerHex, List.length_take, List.length_drop, hlength]
  omega

/-- What the form sends for a text. -/
def textFrame (roomId : Uuid) (textInput : JsString) : String :=
  sendMessageText "send_text_message"
    [("room_id", ofString roomId.hyphenated), ("text_content", codePoints textInput)]

lemma sendText_some {roomId : Uuid} {textInput : JsString} {frame : String} :
    sendText (some roomId) textInput = some frame ↔
      jsTrim textInput ≠ [] ∧ frame = textFrame roomId textInput := by
  simp only [sendText]
  split_ifs with htrim
  · rw [Option.some.injEq, and_iff_right htrim]
    exact eq_comm
  · simp [htrim]

/-- The frame of every text that the input allows is within the limit of the socket. -/
lemma utf8ByteSize_frame_le (roomId : Uuid) {textInput : JsString}
    (hmax : textInput.length ≤ maxLength) :
    (textFrame roomId textInput).utf8ByteSize ≤ maxWebsocketTextBytes := by
  have htext : utf8Len (quote (codePoints textInput)) ≤ 2 + 6 * 4096 := by
    have hquote := utf8Len_quote_le (codePoints textInput)
    have hlength := Utf16.length_codePoints_le textInput
    have hlimit : maxLength = 4096 := rfl
    omega
  have hroom : utf8Len (quote (ofString roomId.hyphenated)) ≤ 2 + 6 * 36 := by
    have hquote := utf8Len_quote_le (ofString roomId.hyphenated)
    rw [ofString, List.length_map, length_hyphenated] at hquote
    exact hquote
  have hnames : ∀ name ∈ ["event", "send_text_message", "payload", "room_id", "text_content"],
      utf8Len (quote (name.toList.map .scalar)) ≤ 20 := by
    decide
  simp only [List.forall_mem_cons, List.not_mem_nil, IsEmpty.forall_iff, implies_true,
    and_true] at hnames
  have hopen : '{'.utf8Size = 1 := rfl
  have hclose : '}'.utf8Size = 1 := rfl
  have hcolon : ':'.utf8Size = 1 := rfl
  have hcomma : ','.utf8Size = 1 := rfl
  rw [textFrame, sendMessageText, String.utf8ByteSize_ofList]
  simp only [objectText, fieldsText, Json.fieldTexts, List.map_cons, List.map_nil,
    String.utf8Len_append, String.utf8Len_cons, String.utf8Len_nil, hopen, hclose, hcolon, hcomma]
  have hlimit : maxWebsocketTextBytes = 65536 := rfl
  simp only [ofString] at hroom ⊢
  omega

/-! ### What the server decodes -/

lemma decode_sendText {crates : Crates} (hjson : crates.ReadsStringified)
    (huuid : crates.ReadsHyphenated) (roomId : Uuid) {textInput : JsString}
    (hmax : textInput.length ≤ maxLength) :
    decodeClientMessage crates (textFrame roomId textInput) =
      match (toChars? textInput).bind fun chars =>
          (RoomTextContent.new (String.ofList chars)).toOption with
      | some content => .ok (.sendTextMessage roomId content)
      | none => .error .invalidProtocolMessage := by
  have hroom : ((ofString roomId.hyphenated).mapM Utf16.CodePoint.scalar?) =
      some roomId.hyphenated.toList := Json.mapM_scalar _
  have htree : sendMessageTree "send_text_message" [("room_id", ofString roomId.hyphenated),
      ("text_content", codePoints textInput)] = (toChars? textInput).map fun chars =>
        .obj [("event", .str "send_text_message"), ("payload", .obj
          [("room_id", .str roomId.hyphenated), ("text_content", .str (String.ofList chars))])] := by
    rw [sendMessageTree, Json.fieldValues_cons, Json.fieldValues_cons, hroom, toChars?]
    cases (codePoints textInput).mapM Utf16.CodePoint.scalar? with
    | none => rfl
    | some chars =>
      simp only [Option.map_some, Option.bind_some, String.ofList_toList]
      rfl
  rw [decodeClientMessage, if_neg (Nat.not_lt_of_le (utf8ByteSize_frame_le roomId hmax)), textFrame,
    hjson, htree]
  cases toChars? textInput with
  | none => rfl
  | some chars =>
    have hmessage : ClientMessage.deserialize crates (.obj [("event", .str "send_text_message"),
        ("payload", .obj [("room_id", .str roomId.hyphenated),
          ("text_content", .str (String.ofList chars))])]) =
        (RoomTextContent.new (String.ofList chars)).toOption.map (.sendTextMessage roomId) := by
      simp [ClientMessage.deserialize, deserializeTagged, ClientMessage.deserializeVariant, field?,
        variantName?, string?, uuid?, huuid roomId, RoomTextContent.deserialize]
      cases (RoomTextContent.new (String.ofList chars)).toOption <;> rfl
    rw [Option.map_some, Option.bind_eq_bind, Option.bind_some, hmessage, Option.bind_some]
    cases (RoomTextContent.new (String.ofList chars)).toOption <;> rfl

lemma value_of_new {value : String} {content : RoomTextContent}
    (h : RoomTextContent.new value = .ok content) : content.value = value := by
  unfold RoomTextContent.new at h
  split_ifs at h
  cases h
  rfl

lemma new_ok_iff {value : String} :
    (∃ content, RoomTextContent.new value = .ok content) ↔
      trim value.toList ≠ [] ∧ value.utf8ByteSize ≤ maxTextContentBytes := by
  constructor
  · rintro ⟨content, h⟩
    rw [← value_of_new h]
    exact ⟨content.trim_ne_nil, content.size_le⟩
  · rintro ⟨htrim, hsize⟩
    exact ⟨⟨value, htrim, hsize⟩, by
      rw [RoomTextContent.new, dif_neg htrim, dif_neg (Nat.not_lt_of_le hsize)]⟩

/-- A well-formed text of at most 4096 bytes of UTF-8 with a character that is not white space. -/
def Acceptable (textInput : JsString) : Prop :=
  ∃ chars, toChars? textInput = some chars ∧
    (String.ofList chars).utf8ByteSize ≤ maxTextContentBytes ∧ ∃ c ∈ chars, isWhitespace c = false

lemma acceptable_iff {textInput : JsString} :
    Acceptable textInput ↔ ∃ chars content, toChars? textInput = some chars ∧
      RoomTextContent.new (String.ofList chars) = .ok content := by
  constructor
  · rintro ⟨chars, hchars, hsize, c, hc, hspace⟩
    have htrim : trim (String.ofList chars).toList ≠ [] := by
      intro h
      rw [String.toList_ofList, trim_eq_nil_iff] at h
      rw [h c hc] at hspace
      cases hspace
    obtain ⟨content, hcontent⟩ := new_ok_iff.mpr ⟨htrim, hsize⟩
    exact ⟨chars, content, hchars, hcontent⟩
  · rintro ⟨chars, content, hchars, hcontent⟩
    obtain ⟨htrim, hsize⟩ := new_ok_iff.mp ⟨content, hcontent⟩
    refine ⟨chars, hchars, hsize, ?_⟩
    by_contra hall
    apply htrim
    rw [String.toList_ofList, trim_eq_nil_iff]
    intro c hc
    by_contra hspace
    exact hall ⟨c, hc, Bool.eq_false_of_not_eq_true hspace⟩

/-- The server decodes the frame of the form to its text exactly if the text is acceptable. -/
theorem sendText_decoded_iff {crates : Crates} (hjson : crates.ReadsStringified)
    (huuid : crates.ReadsHyphenated) {roomId : Uuid} {textInput : JsString}
    (hmax : textInput.length ≤ maxLength) {frame : String}
    (hsend : sendText (some roomId) textInput = some frame) :
    (∃ content, decodeClientMessage crates frame = .ok (.sendTextMessage roomId content) ∧
      toChars? textInput = some content.value.toList) ↔ Acceptable textInput := by
  obtain ⟨-, rfl⟩ := sendText_some.mp hsend
  rw [acceptable_iff, decode_sendText hjson huuid roomId hmax]
  constructor
  · rintro ⟨content, hcontent, hchars⟩
    rw [hchars, Option.bind_some, String.ofList_toList] at hcontent
    cases hnew : RoomTextContent.new content.value with
    | error e =>
      rw [hnew] at hcontent
      cases hcontent
    | ok content' => exact ⟨_, content', hchars, by rw [String.ofList_toList, hnew]⟩
  · rintro ⟨chars, content, hchars, hnew⟩
    refine ⟨content, ?_, ?_⟩
    · rw [hchars, Option.bind_some, hnew]
      rfl
    · rw [hchars, value_of_new hnew, String.toList_ofList]

/-! ### Texts that the form sends and the server refuses -/

/-- A text of two bytes of UTF-8 for each of its 2049 units, a next-line character, which is white
space for the server only, and a lone surrogate. -/
def refusedTexts : List JsString := [List.replicate 2049 0xE9, [0x85], [0xD800]]

lemma toChars?_accents : toChars? (List.replicate 2049 0xE9) = some (List.replicate 2049 'é') := by
  have hcodePoints : codePoints (List.replicate 2049 0xE9) =
      (List.replicate 2049 'é').map .scalar := by
    rw [Utf16.codePoints_eq_map (fun u hu => by rw [List.eq_of_mem_replicate hu]; rfl),
      List.map_replicate, List.map_replicate]
    rfl
  rw [toChars?, hcodePoints, Json.mapM_scalar]

lemma utf8Len_replicate (n : ℕ) (c : Char) : utf8Len (List.replicate n c) = n * c.utf8Size := by
  induction n with
  | zero => simp
  | succ n ih => rw [List.replicate_succ, String.utf8Len_cons, ih, Nat.succ_mul]

lemma not_acceptable_of_mem {textInput : JsString} (h : textInput ∈ refusedTexts) :
    ¬Acceptable textInput := by
  simp only [refusedTexts, List.mem_cons, List.not_mem_nil, or_false] at h
  rintro ⟨chars, hchars, hsize, c, hc, hspace⟩
  rcases h with rfl | rfl | rfl
  · rw [toChars?_accents] at hchars
    cases hchars
    rw [String.utf8ByteSize_ofList, utf8Len_replicate] at hsize
    exact absurd hsize (by decide)
  · cases hchars
    rw [List.mem_singleton.mp hc] at hspace
    exact absurd hspace (by decide)
  · cases hchars

/-- The input allows the text and the form sends it, but the server closes the connection. -/
def SentInVain (textInput : JsString) : Prop :=
  textInput.length ≤ maxLength ∧
    ∃ frame, sendText (some Reference.room) textInput = some frame ∧
      decodeClientMessage Reference.crates frame = .error .invalidProtocolMessage

lemma sentInVain_of_mem {textInput : JsString} (htext : textInput ∈ refusedTexts) :
    SentInVain textInput := by
  have hform : ∀ textInput ∈ refusedTexts,
      textInput.length ≤ maxLength ∧ jsTrim textInput ≠ [] := by decide +kernel
  obtain ⟨hmax, htrim⟩ := hform textInput htext
  refine ⟨hmax, textFrame Reference.room textInput, sendText_some.mpr ⟨htrim, rfl⟩, ?_⟩
  have hnone : ((toChars? textInput).bind fun chars =>
      (RoomTextContent.new (String.ofList chars)).toOption) = none := by
    by_contra hsome
    obtain ⟨content, hcontent⟩ := Option.ne_none_iff_exists'.mp hsome
    obtain ⟨chars, hchars, hnew⟩ := Option.bind_eq_some_iff.mp hcontent
    apply not_acceptable_of_mem htext
    rw [acceptable_iff]
    exact ⟨chars, content, hchars, by
      cases hresult : RoomTextContent.new (String.ofList chars) <;> simp_all [Except.toOption]⟩
  rw [decode_sendText Reference.readsStringified Reference.readsHyphenated _ hmax, hnone]

theorem sendText_refused :
    SentInVain (List.replicate 2049 0xE9) ∧ SentInVain [0x85] ∧ SentInVain [0xD800] := by
  refine ⟨sentInVain_of_mem ?_, sentInVain_of_mem ?_, sentInVain_of_mem ?_⟩
  · exact List.mem_cons_self
  · exact List.mem_cons_of_mem _ List.mem_cons_self
  · exact List.mem_cons_of_mem _ (List.mem_cons_of_mem _ List.mem_cons_self)

/-- The text `hi` arrives. -/
theorem sendText_decoded_iff_hi :
    ∃ frame, sendText (some Reference.room) [0x68, 0x69] = some frame ∧
      ∃ content, decodeClientMessage Reference.crates frame =
          .ok (.sendTextMessage Reference.room content) ∧
        toChars? [0x68, 0x69] = some content.value.toList := by
  have hsend : sendText (some Reference.room) [0x68, 0x69] =
      some (textFrame Reference.room [0x68, 0x69]) := sendText_some.mpr ⟨by decide, rfl⟩
  have hacceptable : Acceptable [0x68, 0x69] :=
    ⟨['h', 'i'], rfl, by rw [String.utf8ByteSize_ofList]; decide, 'h', List.mem_cons_self, rfl⟩
  exact ⟨_, hsend, (sendText_decoded_iff Reference.readsStringified Reference.readsHyphenated
    (by decide) hsend).mpr hacceptable⟩

end VTNet.Proofs
