import VTNet.Wire
import VTNet.Proofs.ChatText

/-!
# Messages on the wire

What is encoded is decoded again, unless a client's text exceeds the limit of the socket. The
limit of chat texts is far enough below it for that never to happen to them.
-/

namespace VTNet.Proofs

/-! ### Values -/

lemma uint16?_toNat (n : UInt16) : uint16? (.int n.toNat) = some n := by
  have hn := n.toNat_lt
  simp [uint16?]
  omega

lemma uint64?_toNat (n : UInt64) : uint64? (.int n.toNat) = some n := by
  have hn := n.toNat_lt
  simp [uint64?]
  omega

lemma deserialize_reason (reason : AuthFailureReason) :
    AuthFailureReason.deserialize false reason.serialize = some reason := by
  cases reason <;> rfl

lemma deserialize_sdpType (sdpType : SdpType) :
    SdpType.deserialize false sdpType.serialize = some sdpType := by
  cases sdpType <;> rfl

lemma new_value (textContent : RoomTextContent) :
    RoomTextContent.new textContent.value = .ok textContent := by
  rw [RoomTextContent.new, dif_neg textContent.trim_ne_nil,
    dif_neg (Nat.not_lt_of_le textContent.size_le)]

lemma deserialize_textContent (textContent : RoomTextContent) :
    RoomTextContent.deserialize textContent.serialize = some textContent := by
  simp only [RoomTextContent.deserialize, RoomTextContent.serialize, string?, Option.bind_eq_bind,
    Option.bind_some, new_value]
  rfl

section Messages

variable {crates : Crates}

lemma deserialize_uid (hbase64 : crates.base64.DecodeInvertsEncode) (uid : UserUid) :
    UserUid.deserialize crates (uid.serialize crates) = some uid := by
  simp only [UserUid.deserialize, UserUid.serialize, string?, Option.bind_eq_bind, Option.bind_some,
    hbase64 uid.asBytes.toList, Bytes.Fixed.ofList?_toList]
  rfl

lemma uuid?_serialize (huuid : crates.ReadsHyphenated) (uuid : Uuid) :
    uuid? crates uuid.serialize = some uuid := by
  simp only [uuid?, Uuid.serialize, string?, Option.bind_eq_bind, Option.bind_some, huuid uuid]

/-- The tree of a client's message is that of no other. -/
lemma deserialize_client (hbase64 : crates.base64.DecodeInvertsEncode)
    (huuid : crates.ReadsHyphenated) (message : ClientMessage) :
    ClientMessage.deserialize crates (message.serialize crates) = some message := by
  rw [ClientMessage.deserialize]
  cases message <;>
    simp -implicitDefEqProofs [ClientMessage.serialize, ClientMessage.deserializeVariant, field?,
      string?, uint16?_toNat, deserialize_uid hbase64, uuid?_serialize huuid,
      deserialize_textContent, deserialize_sdpType]

lemma deserialize_server (hbase64 : crates.base64.DecodeInvertsEncode)
    (huuid : crates.ReadsHyphenated) (message : ServerMessage) :
    ServerMessage.deserialize crates (message.serialize crates) = some message := by
  rw [ServerMessage.deserialize]
  cases message <;>
    simp -implicitDefEqProofs [ServerMessage.serialize, ServerMessage.deserializeVariant, field?,
      string?, uint64?_toNat, deserialize_uid hbase64, uuid?_serialize huuid,
      deserialize_textContent, deserialize_sdpType, deserialize_reason]

/-! ### Trees within the limits of the parser -/

lemma transferable_str (value : String) : Transferable (.str value) := by
  refine ⟨rfl, rfl, ?_⟩
  rw [Json.Value.depth_str]
  decide

lemma transferable_natCast {n : ℕ} (h : n < 2 ^ 64) : Transferable (.int n) := by
  refine ⟨rfl, Json.Value.integral_natCast h, ?_⟩
  rw [Json.Value.depth_int]
  decide

lemma transferable_sdpType (sdpType : SdpType) : Transferable sdpType.serialize := by
  cases sdpType <;> exact transferable_str _

lemma transferable_reason (reason : AuthFailureReason) : Transferable reason.serialize := by
  cases reason <;> exact transferable_str _

/-- The tree of a message of transferable values. -/
structure TaggedAs (tree : JsonValue) (event : String) (payload : List (String × JsonValue)) :
    Prop where
  tagged : tree = tagged event payload
  nodup : (payload.map Prod.fst).Nodup
  transferable : ∀ field ∈ payload, Transferable field.2

lemma TaggedAs.integral {tree : JsonValue} {event : String} {payload : List (String × JsonValue)}
    (h : TaggedAs tree event payload) : tree.integral = true := by
  rw [h.tagged]
  exact tagged_integral fun field hfield => (h.transferable field hfield).integral

def clientCandidate? : ClientMessage → Option JsonValue
  | .sendWebRtcIce _ _ candidate => some candidate.tree
  | _ => none

def serverCandidate? : ServerMessage → Option JsonValue
  | .forwardWebRtcIce _ _ candidate => some candidate.tree
  | _ => none

variable (crates) in
lemma client_taggedAs {message : ClientMessage}
    (h : ∀ candidate ∈ clientCandidate? message, Transferable candidate) :
    ∃ event payload, TaggedAs (message.serialize crates) event payload := by
  have huint (n : UInt16) : Transferable (.int n.toNat) :=
    transferable_natCast (n.toNat_lt.trans (by decide))
  cases message <;> refine ⟨_, _, rfl, by simp, ?_⟩ <;>
    simp_all [clientCandidate?, Uuid.serialize, UserUid.serialize, RoomTextContent.serialize,
      transferable_sdpType, transferable_str]

variable (crates) in
lemma server_taggedAs {message : ServerMessage}
    (h : ∀ candidate ∈ serverCandidate? message, Transferable candidate) :
    ∃ event payload, TaggedAs (message.serialize crates) event payload := by
  have huint (n : UInt64) : Transferable (.int n.toNat) := transferable_natCast n.toNat_lt
  cases message <;> refine ⟨_, _, rfl, by simp, ?_⟩ <;>
    simp_all [serverCandidate?, Uuid.serialize, UserUid.serialize, RoomTextContent.serialize,
      transferable_sdpType, transferable_reason, transferable_str]

/-! ### Texts within the limit of the socket -/

lemma utf8Len_le (chars : List Char) : String.utf8Len chars ≤ 4 * chars.length := by
  induction chars with
  | nil => exact le_rfl
  | cons c chars ih =>
    have hone := c.utf8Size_le_four
    rw [String.utf8Len_cons, List.length_cons]
    omega

lemma escapedSize_room_le (uuid : Uuid) : uuid.serialize.escapedSize ≤ 866 := by
  have hsize := utf8Len_le uuid.hyphenated.toList
  rw [length_hyphenated, ← String.utf8ByteSize_ofList, String.ofList_toList] at hsize
  rw [Uuid.serialize, Json.Value.escapedSize_str]
  omega

lemma escapedSize_tagged (event : String) (payload : List (String × Json.Value)) :
    (tagged event payload).escapedSize = 86 + 6 * event.utf8ByteSize +
      (payload.map fun field => 4 + 6 * field.1.utf8ByteSize + field.2.escapedSize).sum := by
  have hevent : "event".utf8ByteSize = 5 := by decide
  have hpayload : "payload".utf8ByteSize = 7 := by decide
  simp only [tagged, Json.Value.escapedSize_obj, Json.Value.escapedSize_str, List.map_cons,
    List.map_nil, List.sum_cons, List.sum_nil, hevent, hpayload]
  omega

/-- The messages whose fields are all of a bounded size. The text of a chat message is one that
`RoomTextContent.new` admits. -/
def IsShort : ClientMessage → Prop
  | .authIdentify _ _ => True
  | .joinVoiceRoom _ => True
  | .leaveVoiceRoom _ => True
  | .sendTextMessage _ _ => True
  | _ => False

/-- The largest of them is a chat text of which every byte is escaped. -/
lemma escapedSize_le (hpadded : crates.base64.Padded) {message : ClientMessage}
    (h : IsShort message) : (message.serialize crates).escapedSize ≤ maxWebsocketTextBytes := by
  have hnames : ∀ name ∈ ["auth_identify", "protocol_version", "client_uid", "join_voice_room",
      "leave_voice_room", "send_text_message", "room_id", "text_content"],
      name.utf8ByteSize ≤ 20 := by decide
  simp only [List.forall_mem_cons, List.not_mem_nil, IsEmpty.forall_iff, implies_true,
    and_true] at hnames
  have hlimit : maxWebsocketTextBytes = 65536 := rfl
  cases message with
  | authIdentify protocolVersion clientUid =>
    have huid := hpadded clientUid.asBytes.toList
    rw [Bytes.Fixed.length_toList] at huid
    simp only [ClientMessage.serialize, escapedSize_tagged, UserUid.serialize,
      Json.Value.escapedSize_str, Json.Value.escapedSize_int, List.map_cons, List.map_nil,
      List.sum_cons, List.sum_nil]
    omega
  | joinVoiceRoom roomId =>
    have hroom := escapedSize_room_le roomId
    simp only [ClientMessage.serialize, escapedSize_tagged, List.map_cons, List.map_nil,
      List.sum_cons, List.sum_nil]
    omega
  | leaveVoiceRoom roomId =>
    have hroom := escapedSize_room_le roomId
    simp only [ClientMessage.serialize, escapedSize_tagged, List.map_cons, List.map_nil,
      List.sum_cons, List.sum_nil]
    omega
  | sendTextMessage roomId textContent =>
    have hroom := escapedSize_room_le roomId
    have htext := textContent.size_le
    have hcontent : maxTextContentBytes = 4096 := rfl
    simp only [ClientMessage.serialize, escapedSize_tagged, RoomTextContent.serialize,
      Json.Value.escapedSize_str, List.map_cons, List.map_nil, List.sum_cons, List.sum_nil]
    omega
  | _ => cases h

/-! ### The order of tag and payload -/

lemma variantName?_buffered {value : JsonValue} {name : String}
    (h : variantName? false value = some name) : variantName? true value = some name := by
  unfold variantName? at h ⊢
  split at h
  · exact h
  · exact h
  · cases h
  · cases h

lemma deserialize_sdpType_buffered {value : JsonValue} {sdpType : SdpType}
    (h : SdpType.deserialize false value = some sdpType) :
    SdpType.deserialize true value = some sdpType := by
  unfold SdpType.deserialize at h ⊢
  cases hname : variantName? false value with
  | none =>
    rw [hname] at h
    cases h
  | some name => rwa [variantName?_buffered hname, ← hname]

lemma variant_buffered {event : String} {fields : List (String × JsonValue)}
    {message : ClientMessage}
    (h : ClientMessage.deserializeVariant crates false event fields = some message) :
    ClientMessage.deserializeVariant crates true event fields = some message := by
  unfold ClientMessage.deserializeVariant at h ⊢
  split at h
  -- the one variant with an enum among its fields
  case h_6 =>
    obtain ⟨roomId, hroomId, h⟩ := Option.bind_eq_some_iff.mp h
    obtain ⟨targetUid, htargetUid, h⟩ := Option.bind_eq_some_iff.mp h
    obtain ⟨sdpType, hsdpType, h⟩ := Option.bind_eq_some_iff.mp h
    obtain ⟨value, hvalue, hsdpType⟩ := Option.bind_eq_some_iff.mp hsdpType
    refine Option.bind_eq_some_iff.mpr ⟨roomId, hroomId, ?_⟩
    refine Option.bind_eq_some_iff.mpr ⟨targetUid, htargetUid, ?_⟩
    refine Option.bind_eq_some_iff.mpr ⟨sdpType, ?_, h⟩
    exact Option.bind_eq_some_iff.mpr ⟨value, hvalue, deserialize_sdpType_buffered hsdpType⟩
  all_goals exact h

/-- What is read with its tag first is also read with its payload first. -/
theorem deserialize_payloadFirst {event payload : JsonValue} {message : ClientMessage}
    (h : ClientMessage.deserialize crates (.obj [("event", event), ("payload", payload)]) =
      some message) :
    ClientMessage.deserialize crates (.obj [("payload", payload), ("event", event)]) =
      some message := by
  obtain ⟨name, hname, h⟩ := Option.bind_eq_some_iff.mp h
  refine Option.bind_eq_some_iff.mpr ⟨name, hname, ?_⟩
  cases payload with
  | obj fields => exact variant_buffered h
  | _ => cases h

/-- An empty object stands for the content of a unit variant only where the payload comes first. -/
example :
    let payload : JsonValue := .obj [("room_id", Reference.room.serialize),
      ("target_uid", UserUid.serialize Reference.crates ⟨Reference.first.key⟩),
      ("sdp_type", .obj [("offer", .obj [])]), ("sdp_raw", .str "")]
    (ClientMessage.deserialize Reference.crates
        (.obj [("payload", payload), ("event", .str "send_web_rtc_sdp")])).isSome = true ∧
      ClientMessage.deserialize Reference.crates
        (.obj [("event", .str "send_web_rtc_sdp"), ("payload", payload)]) = none := by
  decide +kernel

/-! ### What is decoded -/

/-- The fields of a message, by either form of an adjacently tagged enum. -/
def payload? : JsonValue → Option (List (String × JsonValue))
  | .obj frame =>
    match field? "payload" frame with
    | some (.obj fields) => some fields
    | _ => none
  | .arr [_, .obj fields] => some fields
  | _ => none

/-- The text is that of a message with this string in the field. -/
def Carries (crates : Crates) (text field value : String) : Prop :=
  ∃ tree fields, crates.parseJson text = some tree ∧ payload? tree = some fields ∧
    field? field fields = some (.str value)

/-- The users that a client names, and in which field. -/
def namedUid? : ClientMessage → Option (String × UserUid)
  | .authIdentify _ clientUid => some ("client_uid", clientUid)
  | .sendWebRtcSdp _ targetUid _ _ => some ("target_uid", targetUid)
  | .sendWebRtcIce _ targetUid _ => some ("target_uid", targetUid)
  | _ => none

lemma payload_of_deserialize {tree : JsonValue} {message : ClientMessage}
    (h : ClientMessage.deserialize crates tree = some message) :
    ∃ buffered event fields, payload? tree = some fields ∧
      ClientMessage.deserializeVariant crates buffered event fields = some message := by
  unfold ClientMessage.deserialize deserializeTagged at h
  split at h
  · obtain ⟨event, -, hvariant⟩ := Option.bind_eq_some_iff.mp h
    split at hvariant
    · rename_i frame fields hpayload
      exact ⟨_, event, fields, by simp only [payload?, hpayload], hvariant⟩
    · cases hvariant
  · exact ⟨false, _, _, rfl, h⟩
  · cases h

lemma variant_of_decode {text : String} {message : ClientMessage}
    (h : decodeClientMessage crates text = .ok message) :
    ∃ tree buffered event fields, crates.parseJson text = some tree ∧ payload? tree = some fields ∧
      ClientMessage.deserializeVariant crates buffered event fields = some message := by
  unfold decodeClientMessage at h
  split_ifs at h
  split at h
  · rename_i message' hmessage
    cases h
    obtain ⟨tree, htree, hdeserialize⟩ := Option.bind_eq_some_iff.mp hmessage
    obtain ⟨buffered, event, fields, hpayload, hvariant⟩ := payload_of_deserialize hdeserialize
    exact ⟨tree, buffered, event, fields, htree, hpayload, hvariant⟩
  · cases h

lemma string?_eq_some_iff {value : JsonValue} {s : String} :
    string? value = some s ↔ value = .str s := by
  cases value <;> simp [string?]

lemma deserialize_uid_iff {value : JsonValue} {uid : UserUid} :
    UserUid.deserialize crates value = some uid ↔
      ∃ encoded, value = .str encoded ∧
        crates.base64.decode encoded = some uid.asBytes.toList := by
  constructor
  · intro h
    obtain ⟨encoded, hencoded, h⟩ := Option.bind_eq_some_iff.mp h
    obtain ⟨decoded, hdecoded, h⟩ := Option.bind_eq_some_iff.mp h
    obtain ⟨bytes, hbytes, h⟩ := Option.bind_eq_some_iff.mp h
    cases h
    unfold Bytes.Fixed.ofList? at hbytes
    split_ifs at hbytes
    cases hbytes
    exact ⟨encoded, string?_eq_some_iff.mp hencoded, hdecoded⟩
  · rintro ⟨encoded, rfl, hdecoded⟩
    simp only [UserUid.deserialize, string?, Option.bind_eq_bind, Option.bind_some, hdecoded,
      Bytes.Fixed.ofList?_toList]
    rfl

lemma deserialize_text_iff {value : JsonValue} {textContent : RoomTextContent} :
    RoomTextContent.deserialize value = some textContent ↔ value = .str textContent.value := by
  constructor
  · intro h
    obtain ⟨s, hs, h⟩ := Option.bind_eq_some_iff.mp h
    cases hnew : RoomTextContent.new s with
    | error e =>
      rw [hnew] at h
      cases h
    | ok content =>
      rw [hnew] at h
      cases h
      rw [value_of_new hnew]
      exact string?_eq_some_iff.mp hs
  · rintro rfl
    exact deserialize_textContent textContent

/-- Every user of a decoded message is one that the text has 32 bytes for. -/
lemma uid_of_variant {buffered : Bool} {event : String} {fields : List (String × JsonValue)}
    {message : ClientMessage}
    (h : ClientMessage.deserializeVariant crates buffered event fields = some message)
    {field : String} {uid : UserUid} (huid : namedUid? message = some (field, uid)) :
    ∃ encoded, field? field fields = some (.str encoded) ∧
      crates.base64.decode encoded = some uid.asBytes.toList := by
  have hfield : (field? field fields >>= UserUid.deserialize crates) = some uid := by
    unfold ClientMessage.deserializeVariant at h
    split at h <;>
      simp only [Option.bind_eq_bind, Option.bind_eq_some_iff, Option.pure_def, Option.some.injEq,
        reduceCtorEq] at h
    · obtain ⟨protocolVersion, -, clientUid, hclientUid, rfl⟩ := h
      cases huid
      exact Option.bind_eq_some_iff.mpr hclientUid
    · obtain ⟨signatureBase64, -, rfl⟩ := h
      cases huid
    · obtain ⟨roomId, -, rfl⟩ := h
      cases huid
    · obtain ⟨roomId, -, rfl⟩ := h
      cases huid
    · obtain ⟨roomId, -, textContent, -, rfl⟩ := h
      cases huid
    · obtain ⟨roomId, -, targetUid, htargetUid, sdpType, -, sdpRaw, -, rfl⟩ := h
      cases huid
      exact Option.bind_eq_some_iff.mpr htargetUid
    · obtain ⟨roomId, -, targetUid, htargetUid, candidate, -, rfl⟩ := h
      cases huid
      exact Option.bind_eq_some_iff.mpr htargetUid
  obtain ⟨value, hvalue, hdeserialize⟩ := Option.bind_eq_some_iff.mp hfield
  obtain ⟨encoded, rfl, hdecoded⟩ := deserialize_uid_iff.mp hdeserialize
  exact ⟨encoded, hvalue, hdecoded⟩

lemma text_of_variant {buffered : Bool} {event : String} {fields : List (String × JsonValue)}
    {roomId : Uuid} {textContent : RoomTextContent}
    (h : ClientMessage.deserializeVariant crates buffered event fields =
      some (.sendTextMessage roomId textContent)) :
    field? "text_content" fields = some (.str textContent.value) := by
  unfold ClientMessage.deserializeVariant at h
  split at h <;>
    simp only [Option.bind_eq_bind, Option.bind_eq_some_iff, Option.pure_def, Option.some.injEq,
      reduceCtorEq, and_false, exists_false, ClientMessage.sendTextMessage.injEq] at h
  obtain ⟨_, -, _, ⟨value, hvalue, hdeserialize⟩, rfl, rfl⟩ := h
  rw [deserialize_text_iff.mp hdeserialize] at hvalue
  exact hvalue

end Messages

section Texts

variable {crates : Crates} {toJson : JsonWriter}

lemma server_read_back (hwritten : crates.ReadsWritten toJson)
    (hbase64 : crates.base64.DecodeInvertsEncode) (huuid : crates.ReadsHyphenated)
    {message : ServerMessage}
    (h : ∀ candidate ∈ serverCandidate? message, Transferable candidate) :
    ∃ text, encodeServerMessage crates toJson message = some text ∧
      (crates.parseJson text >>= ServerMessage.deserialize crates) = some message := by
  obtain ⟨event, payload, htagged⟩ := server_taggedAs crates h
  obtain ⟨text, htext, hparse⟩ := hwritten event payload htagged.nodup htagged.transferable
  rw [← htagged.tagged] at htext hparse
  exact ⟨text, htext, by rw [hparse]; exact deserialize_server hbase64 huuid message⟩

lemma client_read_back (hwritten : crates.ReadsWritten toJson)
    (hbase64 : crates.base64.DecodeInvertsEncode) (huuid : crates.ReadsHyphenated)
    {message : ClientMessage}
    (h : ∀ candidate ∈ clientCandidate? message, Transferable candidate) :
    ∃ text, toJson (message.serialize crates) = some text ∧
      decodeClientMessage crates text =
        if text.utf8ByteSize ≤ maxWebsocketTextBytes then .ok message
        else .error .messageTooLarge := by
  obtain ⟨event, payload, htagged⟩ := client_taggedAs crates h
  obtain ⟨text, htext, hparse⟩ := hwritten event payload htagged.nodup htagged.transferable
  rw [← htagged.tagged] at htext hparse
  have hmessage : (crates.parseJson text >>= ClientMessage.deserialize crates) = some message := by
    rw [hparse]
    exact deserialize_client hbase64 huuid message
  refine ⟨text, htext, ?_⟩
  rw [decodeClientMessage, hmessage]
  split_ifs with hlarge hfits
  · omega
  · rfl
  · rfl
  · omega

lemma not_carries_candidate {message : ClientMessage} (h : IsShort message) :
    ∀ candidate ∈ clientCandidate? message, Transferable candidate := by
  intro candidate hcandidate
  cases message with
  | sendWebRtcIce roomId targetUid candidate => cases h
  | _ => cases hcandidate

lemma short_read_back (hwritten : crates.ReadsWritten toJson) (hescapes : toJson.WithinEscapes)
    (hbase64 : crates.base64.DecodeInvertsEncode) (hpadded : crates.base64.Padded)
    (huuid : crates.ReadsHyphenated) {message : ClientMessage} (h : IsShort message) :
    ∃ text, toJson (message.serialize crates) = some text ∧
      text.utf8ByteSize ≤ maxWebsocketTextBytes ∧
      decodeClientMessage crates text = .ok message := by
  have hcandidate := not_carries_candidate h
  obtain ⟨text, htext, hdecode⟩ := client_read_back hwritten hbase64 huuid hcandidate
  obtain ⟨event, payload, htagged⟩ := client_taggedAs crates hcandidate
  have hsize : text.utf8ByteSize ≤ maxWebsocketTextBytes :=
    (hescapes _ _ htagged.integral htext).trans (escapedSize_le hpadded h)
  refine ⟨text, htext, hsize, ?_⟩
  rw [hdecode, if_pos hsize]

lemma decoded_text {text : String} {roomId : Uuid} {textContent : RoomTextContent}
    (h : decodeClientMessage crates text = .ok (.sendTextMessage roomId textContent)) :
    Carries crates text "text_content" textContent.value ∧
      (∃ c ∈ textContent.value.toList, isWhitespace c = false) ∧
      textContent.value.utf8ByteSize ≤ maxTextContentBytes := by
  obtain ⟨tree, buffered, event, fields, htree, hpayload, hvariant⟩ := variant_of_decode h
  refine ⟨⟨tree, fields, htree, hpayload, text_of_variant hvariant⟩, ?_, textContent.size_le⟩
  by_contra hall
  apply textContent.trim_ne_nil
  rw [trim_eq_nil_iff]
  intro c hc
  by_contra hspace
  exact hall ⟨c, hc, Bool.eq_false_of_not_eq_true hspace⟩

lemma decoded_uid {text : String} {message : ClientMessage}
    (h : decodeClientMessage crates text = .ok message) {field : String} {uid : UserUid}
    (huid : namedUid? message = some (field, uid)) :
    ∃ encoded, Carries crates text field encoded ∧
      crates.base64.decode encoded = some uid.asBytes.toList ∧ uid.asBytes.toList.length = 32 := by
  obtain ⟨tree, buffered, event, fields, htree, hpayload, hvariant⟩ := variant_of_decode h
  obtain ⟨encoded, hencoded, hdecoded⟩ := uid_of_variant hvariant huid
  exact ⟨encoded, ⟨tree, fields, htree, hpayload, hencoded⟩, hdecoded, uid.asBytes.length_toList⟩

/-- Messages survive the wire, a client's if its text is within the limit of the socket, as that of
every login, entry, exit and chat text is. What is decoded keeps the rules of its fields. -/
theorem wire_round_trip (hwritten : crates.ReadsWritten toJson) (hescapes : toJson.WithinEscapes)
    (hbase64 : crates.base64.DecodeInvertsEncode) (hpadded : crates.base64.Padded)
    (huuid : crates.ReadsHyphenated) :
    (∀ message : ServerMessage,
      (∀ candidate ∈ serverCandidate? message, Transferable candidate) →
      ∃ text, encodeServerMessage crates toJson message = some text ∧
        (crates.parseJson text >>= ServerMessage.deserialize crates) = some message) ∧
    (∀ message : ClientMessage,
      (∀ candidate ∈ clientCandidate? message, Transferable candidate) →
      ∃ text, toJson (message.serialize crates) = some text ∧
        decodeClientMessage crates text =
          if text.utf8ByteSize ≤ maxWebsocketTextBytes then .ok message
          else .error .messageTooLarge) ∧
    (∀ message, IsShort message →
      ∃ text, toJson (message.serialize crates) = some text ∧
        text.utf8ByteSize ≤ maxWebsocketTextBytes ∧
        decodeClientMessage crates text = .ok message) ∧
    (∀ text roomId textContent,
      decodeClientMessage crates text = .ok (.sendTextMessage roomId textContent) →
      Carries crates text "text_content" textContent.value ∧
        (∃ c ∈ textContent.value.toList, isWhitespace c = false) ∧
        textContent.value.utf8ByteSize ≤ maxTextContentBytes) ∧
    ∀ text message field uid, decodeClientMessage crates text = .ok message →
      namedUid? message = some (field, uid) →
      ∃ encoded, Carries crates text field encoded ∧
        crates.base64.decode encoded = some uid.asBytes.toList ∧
        uid.asBytes.toList.length = 32 := by
  refine ⟨?_, ?_, ?_, ?_, ?_⟩
  · intro message hcandidate
    exact server_read_back hwritten hbase64 huuid hcandidate
  · intro message hcandidate
    exact client_read_back hwritten hbase64 huuid hcandidate
  · intro message hshort
    exact short_read_back hwritten hescapes hbase64 hpadded huuid hshort
  · intro text roomId textContent hdecode
    exact decoded_text hdecode
  · intro text message field uid hdecode huid
    exact decoded_uid hdecode huid

end Texts

/-- A candidate of every kind of value but fractions. -/
def hostCandidate : SerdeValue where
  tree := .obj [("candidate", .str "host"), ("components", .arr [.int (-1), .bool true, .obj []]),
    ("sdpMLineIndex", .int 0), ("sdpMid", .null)]
  canonical := by decide

lemma transferable_hostCandidate : Transferable hostCandidate.tree :=
  ⟨hostCandidate.canonical, by decide, by decide⟩

/-- A candidate is forwarded and sent, the first login identifies itself and something is said. -/
theorem wire_round_trip_candidate :
    (∃ text, encodeServerMessage Reference.wireCrates Reference.toJson
        (.forwardWebRtcIce Reference.room ⟨Reference.first.key⟩ hostCandidate) = some text ∧
      (Reference.wireCrates.parseJson text >>= ServerMessage.deserialize Reference.wireCrates) =
        some (.forwardWebRtcIce Reference.room ⟨Reference.first.key⟩ hostCandidate)) ∧
    (∃ text, Reference.toJson
        ((ClientMessage.sendWebRtcIce Reference.room ⟨Reference.second.key⟩ hostCandidate).serialize
          Reference.wireCrates) = some text ∧
      decodeClientMessage Reference.wireCrates text =
        if text.utf8ByteSize ≤ maxWebsocketTextBytes then
          .ok (.sendWebRtcIce Reference.room ⟨Reference.second.key⟩ hostCandidate)
        else .error .messageTooLarge) ∧
    (∃ text encoded, Reference.toJson
        ((ClientMessage.authIdentify 1 ⟨Reference.first.key⟩).serialize Reference.wireCrates) =
          some text ∧
      text.utf8ByteSize ≤ maxWebsocketTextBytes ∧
      Carries Reference.wireCrates text "client_uid" encoded ∧
      Reference.base64.decode encoded = some Reference.first.key.toList) ∧
    ∃ text, Reference.toJson
        ((ClientMessage.sendTextMessage Reference.room Reference.greeting).serialize Reference.wireCrates) =
          some text ∧
      text.utf8ByteSize ≤ maxWebsocketTextBytes ∧
      Carries Reference.wireCrates text "text_content" "hi" := by
  obtain ⟨hserver, hclient, hshort, htext, huid⟩ := wire_round_trip
    Reference.wireCrates_readsWritten Reference.toJson_withinEscapes Reference.base64_decodes
    Reference.base64_padded Reference.readsHyphenated
  refine ⟨hserver _ ?_, hclient _ ?_, ?_, ?_⟩
  · intro candidate hcandidate
    cases hcandidate
    exact transferable_hostCandidate
  · intro candidate hcandidate
    cases hcandidate
    exact transferable_hostCandidate
  · obtain ⟨text, hwrite, hsize, hdecode⟩ := hshort (.authIdentify 1 ⟨Reference.first.key⟩) trivial
    obtain ⟨encoded, hcarries, hdecoded, -⟩ := huid _ _ _ _ hdecode rfl
    exact ⟨text, encoded, hwrite, hsize, hcarries, hdecoded⟩
  · obtain ⟨text, hwrite, hsize, hdecode⟩ :=
      hshort (.sendTextMessage Reference.room Reference.greeting) trivial
    exact ⟨text, hwrite, hsize, (htext _ _ _ hdecode).1⟩

end VTNet.Proofs
