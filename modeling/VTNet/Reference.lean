import VTNet.Signaling
import VTNet.Wire
import VTNet.Lib.Base64

/-!
# Crates to run the model with

The base64 engine and the parser of the texts that clients send are complete. The signature scheme
has the keys and signatures of Ed25519 for a few logins, and a keyed placeholder for the rest.
-/

namespace VTNet.Reference

def base64 : Base64 where
  encode bytes := String.ofList (Base64Codec.encode bytes)
  decode text := Base64Codec.decode text.toList

lemma base64_decodes : base64.DecodeInvertsEncode := by
  intro bytes
  simp only [base64, String.toList_ofList, Base64Codec.decode_encode]

lemma base64_padded : base64.Padded := by
  intro bytes
  simp only [base64, String.utf8ByteSize_ofList, Base64Codec.utf8Len_encode]

/-! ### UUIDs -/

def hexBytes? : List Char → Option (List UInt8)
  | [] => some []
  | high :: low :: rest => do
    let byte ← Bytes.hexByte? high low
    let bytes ← hexBytes? rest
    return byte :: bytes
  | [_] => none

/-- The hyphenated form. -/
def parseUuid (text : String) : Option Uuid :=
  let chars := text.toList
  let isHyphen (i : ℕ) : Bool := chars[i]? = some '-'
  if chars.length = 36 ∧ isHyphen 8 ∧ isHyphen 13 ∧ isHyphen 18 ∧ isHyphen 23 then do
    let bytes ← hexBytes? (chars.take 8 ++ (chars.drop 9).take 4 ++ (chars.drop 14).take 4 ++
      (chars.drop 19).take 4 ++ chars.drop 24)
    let bytes ← Bytes.Fixed.ofList? 16 bytes
    return ⟨bytes⟩
  else none

lemma hexBytes?_lowerHex (bytes : List UInt8) :
    hexBytes? (bytes.flatMap Bytes.lowerHex) = some bytes := by
  induction bytes with
  | nil => rfl
  | cons byte bytes ih =>
    simp only [List.flatMap_cons, Bytes.lowerHex, List.cons_append, List.nil_append, hexBytes?,
      Bytes.hexByte?_lowerHex, ih]
    rfl

lemma parseUuid_hyphenated (uuid : Uuid) : parseUuid uuid.hyphenated = some uuid := by
  obtain ⟨bytes, hlength⟩ := uuid
  match bytes, hlength with
  | [b0, b1, b2, b3, b4, b5, b6, b7, b8, b9, b10, b11, b12, b13, b14, b15], hlength =>
    have hdigits := hexBytes?_lowerHex
      [b0, b1, b2, b3, b4, b5, b6, b7, b8, b9, b10, b11, b12, b13, b14, b15]
    simp only [List.flatMap_cons, List.flatMap_nil, Bytes.lowerHex, List.cons_append,
      List.nil_append] at hdigits
    simp [parseUuid, Uuid.hyphenated, Bytes.lowerHex, hdigits, Bytes.Fixed.ofList?]

/-! ### Messages of clients -/

def parseJson (text : String) : Option JsonValue := Json.parse text.toList

lemma reads_ofString (text : String) : Json.Reads (Json.quote (ofString text)) (some (.str text)) := by
  have hreads := Json.reads_quote (ofString text)
  rwa [ofString, Json.mapM_scalar, Option.map_some, String.ofList_toList] at hreads

lemma parseJson_stringified (event : String) (payload : List (String × List Utf16.CodePoint)) :
    parseJson (sendMessageText event payload) = sendMessageTree event payload := by
  have hpayload := Json.reads_object Prod.fst (fun field => Json.quote field.2)
    (fun field => (field.2.mapM Utf16.CodePoint.scalar?).map fun chars =>
      .str (String.ofList chars)) payload (fun field _ => Json.reads_quote field.2)
  have hframe := Json.reads_object (fun field : String × List Char × Option JsonValue => field.1)
    (fun field => field.2.1) (fun field => field.2.2)
    [("event", Json.quote (ofString event), some (.str event)),
      ("payload", Json.objectText (Json.fieldTexts Prod.fst (fun field => Json.quote field.2) payload),
        _)]
    (by
      intro field hfield
      simp only [List.mem_cons, List.not_mem_nil, or_false] at hfield
      rcases hfield with rfl | rfl
      · exact reads_ofString event
      · exact hpayload)
  have hparse := Json.parse_of_reads hframe
  rw [parseJson, sendMessageText, String.toList_ofList]
  apply hparse.trans
  rw [sendMessageTree]
  simp only [Json.fieldValues_cons]
  cases Json.fieldValues _ _ payload <;> rfl

/-! ### Logins with real keys -/

/-- A login of a client: its seed and key, and the signature of the challenge it is given. -/
structure Login where
  seed : Seed
  key : Bytes.Fixed 32
  nonce : Nonce
  serverTimestamp : UInt64
  signature : Bytes.Fixed 64

def Login.payload (login : Login) : List UInt8 :=
  authSignaturePayload 1 login.nonce login.serverTimestamp ⟨login.key⟩

def keyOf (key : ℕ) : Bytes.Fixed 32 := ⟨Bytes.toBeBytes 32 key, Bytes.length_toBeBytes _ _⟩

/-- A signature by its two halves. -/
def signatureOf (r s : ℕ) : Bytes.Fixed 64 :=
  ⟨Bytes.toBeBytes 32 r ++ Bytes.toBeBytes 32 s, by simp⟩

def first : Login where
  seed := Bytes.Fixed.replicate 32 1
  key := keyOf 0x8a88e3dd7409f195fd52db2d3cba5d72ca6709bf1d94121bf3748801b40f6f5c
  nonce := Bytes.Fixed.replicate 32 3
  serverTimestamp := 42
  signature := signatureOf 0xab614d0fa850ec52a2b3dad30b363e16a400c24b72ecef18a8dd1fea159d5a7f
    0x79915c6be3b98e52ca9ef7326a2f5cd9974cf62e90eeb59c06bed793e78ed10e

def second : Login where
  seed := Bytes.Fixed.replicate 32 2
  key := keyOf 0x8139770ea87d175f56a35466c34c7ecccb8d8a91b4ee37a25df60f5b8fc9b394
  nonce := Bytes.Fixed.replicate 32 4
  serverTimestamp := 43
  signature := signatureOf 0x9d3aac9ee3948b9db5c15a74b8497a50aaff10de5e32254e938e698d4a0c7f29
    0x39b15884fa34f003eef18b2607432c2a08643346d974df3c0063caaf0e656a0d

def logins : List Login := [first, second]

def verifyingKey (seed : Bytes.Fixed 32) : Bytes.Fixed 32 :=
  ((logins.find? (·.seed = seed)).map (·.key)).getD seed

def signature (key : Bytes.Fixed 32) (payload : List UInt8) : Bytes.Fixed 64 :=
  ((logins.find? fun login => login.key = key ∧ login.payload = payload).map (·.signature)).getD
    (Bytes.Fixed.replicate 64 0)

def ed25519 : Ed25519 where
  verifyingKey := verifyingKey
  sign seed payload := signature (verifyingKey seed) payload
  isVerifyingKey _ := true
  verifyStrict key payload given := given = signature key payload

lemma ed25519_accepts : ed25519.AcceptsOwnSignatures := by
  intro seed payload
  exact ⟨rfl, decide_eq_true rfl⟩

def crates : Crates := ⟨base64, ed25519, parseUuid, parseJson⟩

lemma readsStringified : crates.ReadsStringified := by
  simp only [Crates.ReadsStringified, crates]
  exact parseJson_stringified

lemma readsHyphenated : crates.ReadsHyphenated := by
  simp only [Crates.ReadsHyphenated, crates]
  exact parseUuid_hyphenated

/-! ### Texts of every tree -/

def toJson : JsonWriter := fun value => some (String.ofList value.text)

lemma toJson_withinEscapes : toJson.WithinEscapes := by
  intro value text hintegral htext
  cases htext
  rw [String.utf8ByteSize_ofList]
  exact Json.utf8Len_text_le hintegral

/-- The crates with a parser of what the writer writes. -/
def wireCrates : Crates := ⟨base64, ed25519, parseUuid, fun text => Json.readTree text.toList⟩

lemma parseJson_text {value : JsonValue} (h : value.integral = true) :
    wireCrates.parseJson (String.ofList value.text) = some value := by
  simp only [wireCrates, String.toList_ofList, Json.readTree_text h]

lemma wireCrates_readsWritten : wireCrates.ReadsWritten toJson := by
  intro event payload _ htransferable
  exact ⟨_, rfl, parseJson_text (tagged_integral fun field hfield =>
    (htransferable field hfield).integral)⟩

/-! ### Runs of the server -/

def identifyText (login : Login) : String :=
  String.ofList (Json.objectText [("event", Json.quote (ofString "auth_identify")),
    ("payload", Json.objectText [("protocol_version", ['1']),
      ("client_uid", Json.quote (ofString (base64.encode login.key.toList)))])])

def responseText (login : Login) : String :=
  sendMessageText "auth_response"
    [("signature_base64", ofString (base64.encode login.signature.toList))]

def joinText (roomId : Uuid) : String :=
  sendMessageText "join_voice_room" [("room_id", ofString roomId.hyphenated)]

/-- The frame arrives while the login's challenge could be made. -/
def receive (c : ConnId) (login : Login) (text : String) : Action :=
  .receive c (.text text) login.nonce login.serverTimestamp 0

def logIn (c : ConnId) (login : Login) : List Action :=
  [.accept c, receive c login (identifyText login), .reply c,
    receive c login (responseText login), .register c, .reply c]

def join (c : ConnId) (login : Login) (roomId : Uuid) : List Action :=
  [receive c login (joinText roomId), .handle c]

def leaveText (roomId : Uuid) : String :=
  sendMessageText "leave_voice_room" [("room_id", ofString roomId.hyphenated)]

def sdpText (roomId : Uuid) (targetUid : UserUid) (sdpType sdpRaw : String) : String :=
  sendMessageText "send_web_rtc_sdp" [("room_id", ofString roomId.hyphenated),
    ("target_uid", ofString (base64.encode targetUid.asBytes.toList)),
    ("sdp_type", ofString sdpType), ("sdp_raw", ofString sdpRaw)]

def sayText (roomId : Uuid) (text : String) : String :=
  sendMessageText "send_text_message"
    [("room_id", ofString roomId.hyphenated), ("text_content", ofString text)]

def say (c : ConnId) (login : Login) (roomId : Uuid) (text : String) : List Action :=
  [receive c login (sayText roomId text), .handle c]

def room : Uuid := ⟨Bytes.Fixed.replicate 16 7⟩

def otherRoom : Uuid := ⟨Bytes.Fixed.replicate 16 8⟩

/-- The first login enters the room, the second one does, and the first one says something. -/
def meeting : List Action :=
  logIn 0 first ++ logIn 1 second ++ join 0 first room ++ join 1 second room ++
    say 0 first room "hi"

/-- Where the actions lead, or the start if one of them is not enabled. -/
def final (actions : List Action) : System :=
  (Execution.exec (System.step crates) System.default actions).getD System.default

/-- The session of a login whose connection is in the room. -/
def member (login : Login) : Session :=
  ⟨⟨login.key⟩, ConnectionAuthenticator.defaultDisplayName ⟨login.key⟩, some room⟩

/-- The log of a connection that logs in, enters the room and hears the second login enter it. -/
def greeted : List ServerMessage → Bool
  | [.authChallenge _ _, .authSuccess _ _ _, .voiceRoomJoined joined,
      .peerJoinedRoom entered peerUid _] =>
    joined = room ∧ entered = room ∧ peerUid = ⟨second.key⟩
  | _ => false

/-- The second login changes to the other room after the meeting. -/
def parting : List Action := join 1 second otherRoom

set_option synthInstance.maxSize 256 in
/-- What the run leads to, with what follows, evaluated once. -/
lemma meeting_leaves :
    ((Execution.exec (System.step crates) System.default meeting).bind fun system =>
      (Execution.exec (System.step crates) system parting).map fun parted =>
        ((system.roster 0, system.roster 1, system.state.rooms.occupants room,
          ((system.outbound 1).filter ServerMessage.isPost).length, greeted (system.outbound 0)),
          parted.roster 0, parted.roster 1)) =
      some ((some (member first), some (member second), {⟨first.key⟩, ⟨second.key⟩}, 1, true),
        some (member first), some { member second with activeVoiceRoomId := some otherRoom }) := by
  decide +kernel

lemma meeting_runs :
    Execution.exec (System.step crates) System.default meeting = some (final meeting) := by
  obtain ⟨system, hsystem, -⟩ := Option.bind_eq_some_iff.mp meeting_leaves
  rw [final, hsystem]
  rfl

lemma meeting_final :
    (final meeting).roster 0 = some (member first) ∧
      (final meeting).roster 1 = some (member second) ∧
      (final meeting).state.rooms.occupants room = {⟨first.key⟩, ⟨second.key⟩} ∧
      (((final meeting).outbound 1).filter ServerMessage.isPost).length = 1 ∧
      greeted ((final meeting).outbound 0) = true := by
  have hleaves := meeting_leaves
  rw [meeting_runs, Option.bind_some] at hleaves
  obtain ⟨parted, -, hparted⟩ := Option.map_eq_some_iff.mp hleaves
  simpa only [Prod.mk.injEq] using (Prod.mk.inj hparted).1

lemma parting_leaves : ∃ system,
    Execution.exec (System.step crates) System.default (meeting ++ parting) = some system ∧
      system.roster 0 = some (member first) ∧
      system.roster 1 = some { member second with activeVoiceRoomId := some otherRoom } := by
  have hleaves := meeting_leaves
  rw [meeting_runs, Option.bind_some] at hleaves
  obtain ⟨parted, hexec, hparted⟩ := Option.map_eq_some_iff.mp hleaves
  exact ⟨parted, Execution.exec_append_of _ meeting_runs hexec, Prod.mk.inj (Prod.mk.inj hparted).2⟩

lemma log_of_greeted {log : List ServerMessage} (h : greeted log = true) :
    ∃ nonceBase64 serverTimestamp verifiedUid assignedName serverName peerName,
      log = [.authChallenge nonceBase64 serverTimestamp,
        .authSuccess verifiedUid assignedName serverName, .voiceRoomJoined room,
        .peerJoinedRoom room ⟨second.key⟩ peerName] := by
  unfold greeted at h
  split at h
  · obtain ⟨rfl, rfl, rfl⟩ := of_decide_eq_true h
    exact ⟨_, _, _, _, _, _, rfl⟩
  · cases h

lemma meeting_greets :
    ∃ nonceBase64 serverTimestamp verifiedUid assignedName serverName peerName,
      (final meeting).outbound 0 = [.authChallenge nonceBase64 serverTimestamp,
        .authSuccess verifiedUid assignedName serverName, .voiceRoomJoined room,
        .peerJoinedRoom room ⟨second.key⟩ peerName] :=
  log_of_greeted meeting_final.2.2.2.2

lemma members_ne : (⟨first.key⟩ : UserUid) ≠ ⟨second.key⟩ := by decide +kernel

/-! ### Runs of the network -/

/-- The first login is that of connection 0, the second one that of connection 1. -/
def loginOf (c : ConnId) : Login := if c = 0 then first else second

/-- Every client has its seed in its process. -/
def sign (c : ConnId) : String → UInt64 → Except String String :=
  App.signChallenge crates id ⟨.ok (), .error .noEntry, fun _ => .ok ()⟩ (loginOf c).seed
    ⟨some (loginOf c).seed, false⟩

def arrive (c : ConnId) (text : String) : NetworkAction :=
  .deliver c (.text text) (loginOf c).nonce (loginOf c).serverTimestamp 0

def connect (c : ConnId) : List NetworkAction :=
  [.connect c ⟨(loginOf c).key⟩, arrive c (identifyText (loginOf c)), .serve (.reply c), .hear c "",
    arrive c (responseText (loginOf c)), .serve (.register c), .serve (.reply c), .hear c ""]

def enter (c : ConnId) : List NetworkAction :=
  [.act c (.joinVoiceRoom room), arrive c (joinText room), .serve (.handle c), .hear c ""]

def leave (c : ConnId) : List NetworkAction :=
  [.act c (.leaveVoiceRoom room), arrive c (leaveText room), .serve (.handle c), .hear c ""]

def greeting : RoomTextContent := ⟨"hi", by decide, by decide⟩

/-- Both logins enter the room, and the client of the first one makes an offer. -/
def introduced : List NetworkAction :=
  connect 0 ++ enter 0 ++ connect 1 ++ enter 1 ++ [.hear 0 "offer"]

/-- The offer arrives, and the client of the second login answers. -/
def offered : List NetworkAction :=
  [arrive 0 (sdpText room ⟨second.key⟩ "offer" "offer"), .serve (.handle 0), .hear 1 "answer"]

def answered : List NetworkAction :=
  [arrive 1 (sdpText room ⟨first.key⟩ "answer" "answer"), .serve (.handle 1)]

/-- The second login leaves the room and enters it again before the offer arrives, and the client
of the first one makes a second offer before the answer does. -/
def rejoined : List NetworkAction :=
  leave 1 ++ enter 1 ++ offered ++ [.hear 0 "", .hear 0 "second offer"] ++ answered

/-- What connection 0 is about to hear, and what its client waits for from the second login. -/
structure Situation where
  made : List Description
  /-- The rooms that the two connections have entered. -/
  entered : List (List Uuid)
  identity : Option UserUid
  activeRoomRef : Option Uuid
  connection : Option PeerConnection
  next : Option ServerMessage
  deriving DecidableEq

def enteredRoom? : ServerMessage → Option Uuid
  | .voiceRoomJoined roomId => some roomId
  | _ => none

def situation (network : Network) : Option Situation :=
  (network.clients 0).map fun client =>
    { made := network.made
      entered := [0, 1].map fun c => (network.system.outbound c).filterMap enteredRoom?
      identity := client.app.identity
      activeRoomRef := client.app.activeRoomRef
      connection := client.app.peerConnections ⟨second.key⟩
      next := (network.system.outbound 0)[client.handled]? }

def situations : Option (Situation × Situation) := do
  let network ← Execution.exec (Network.step crates sign) Network.start introduced
  let afterAnswer ← Execution.exec (Network.step crates sign) network (offered ++ answered)
  let afterRejoin ← Execution.exec (Network.step crates sign) network rejoined
  return (← situation afterAnswer, ← situation afterRejoin)

/-- The answer responds to the outstanding offer. -/
def answeredSituation : Situation where
  made := [⟨0, 3, room, ⟨second.key⟩, "offer", none⟩,
    ⟨1, 3, room, ⟨first.key⟩, "answer", some "offer"⟩]
  entered := [[room], [room]]
  identity := some ⟨first.key⟩
  activeRoomRef := some room
  connection := some ⟨some "offer"⟩
  next := some (.forwardWebRtcSdp room ⟨second.key⟩ .answer "answer")

/-- The answer responds to the earlier offer, and the later one is outstanding. -/
def rejoinedSituation : Situation where
  made := [⟨0, 3, room, ⟨second.key⟩, "offer", none⟩,
    ⟨1, 5, room, ⟨first.key⟩, "answer", some "offer"⟩,
    ⟨0, 5, room, ⟨second.key⟩, "second offer", none⟩]
  entered := [[room], [room, room]]
  identity := some ⟨first.key⟩
  activeRoomRef := some room
  connection := some ⟨some "second offer"⟩
  next := some (.forwardWebRtcSdp room ⟨second.key⟩ .answer "answer")

lemma situations_eq : situations = some (answeredSituation, rejoinedSituation) := by
  decide +kernel

lemma answered_leaves : ∃ network,
    Execution.exec (Network.step crates sign) Network.start (introduced ++ (offered ++ answered)) =
      some network ∧ situation network = some answeredSituation := by
  have hsituations := situations_eq
  simp only [situations, Option.bind_eq_bind, Option.bind_eq_some_iff] at hsituations
  obtain ⟨network, hintroduced, network', hanswered, _, -, _, hsituation, _, -, h⟩ := hsituations
  cases h
  refine ⟨network', ?_, hsituation⟩
  rw [Execution.exec_append, hintroduced, Option.bind_some, hanswered]

lemma rejoined_leaves : ∃ network,
    Execution.exec (Network.step crates sign) Network.start (introduced ++ rejoined) =
      some network ∧ situation network = some rejoinedSituation := by
  have hsituations := situations_eq
  simp only [situations, Option.bind_eq_bind, Option.bind_eq_some_iff] at hsituations
  obtain ⟨network, hintroduced, _, -, network', hrejoined, _, -, _, hsituation, h⟩ := hsituations
  cases h
  refine ⟨network', ?_, hsituation⟩
  rw [Execution.exec_append, hintroduced, Option.bind_some, hrejoined]

end VTNet.Reference
