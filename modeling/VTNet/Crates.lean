import VTNet.Lib.Bytes
import VTNet.Lib.JsonTree

/-!
# What comes from crates outside the repository

Everything below is proved for any base64 engine, Ed25519 implementation and JSON parser.
What a result needs of them is a hypothesis of that result.
-/

namespace VTNet

structure Uuid where
  bytes : Bytes.Fixed 16
  deriving DecidableEq

/-- `Uuid::to_string`, and the form of a `Uuid` in JSON. -/
def Uuid.hyphenated (uuid : Uuid) : String :=
  let group (start length : ℕ) := ((uuid.bytes.toList.drop start).take length).flatMap Bytes.lowerHex
  String.ofList (group 0 4 ++ '-' :: group 4 2 ++ '-' :: group 6 2 ++ '-' :: group 8 2 ++
    '-' :: group 10 6)

/-- A JSON text as a deserializer meets it: with the fields of every object in the order of the
text, and with all of those that share a name. -/
abbrev JsonValue := Json.Value

/-- A `serde_json::Value`, which has the fields of an object in a `BTreeMap`. -/
structure SerdeValue where
  tree : JsonValue
  canonical : tree.isCanonical = true
  deriving DecidableEq

/-- `Value::deserialize` -/
def SerdeValue.ofTree (tree : JsonValue) : SerdeValue :=
  ⟨tree.canonical, Json.Value.isCanonical_canonical tree⟩

@[simp] lemma SerdeValue.ofTree_tree (value : SerdeValue) : SerdeValue.ofTree value.tree = value := by
  cases value with
  | mk tree canonical => simp only [ofTree, Json.Value.canonical_of_isCanonical canonical]

structure Base64 where
  encode : List UInt8 → String
  decode : String → Option (List UInt8)

def Base64.DecodeInvertsEncode (base64 : Base64) : Prop :=
  ∀ bytes, base64.decode (base64.encode bytes) = some bytes

structure Ed25519 where
  /-- `SigningKey::from_bytes(seed).verifying_key().to_bytes()` -/
  verifyingKey : Bytes.Fixed 32 → Bytes.Fixed 32
  /-- `SigningKey::from_bytes(seed).sign(payload).to_bytes()` -/
  sign : Bytes.Fixed 32 → List UInt8 → Bytes.Fixed 64
  /-- `VerifyingKey::from_bytes(key).is_ok()` -/
  isVerifyingKey : Bytes.Fixed 32 → Bool
  /-- `VerifyingKey::from_bytes(key)?.verify_strict(payload, signature).is_ok()` -/
  verifyStrict : Bytes.Fixed 32 → List UInt8 → Bytes.Fixed 64 → Bool

/-- The key of a seed is well formed and accepts what the seed signs. -/
def Ed25519.AcceptsOwnSignatures (ed25519 : Ed25519) : Prop :=
  ∀ seed payload, ed25519.isVerifyingKey (ed25519.verifyingKey seed) = true ∧
    ed25519.verifyStrict (ed25519.verifyingKey seed) payload (ed25519.sign seed payload) = true

structure Crates where
  base64 : Base64
  ed25519 : Ed25519
  /-- `Uuid::parse_str` -/
  parseUuid : String → Option Uuid
  /-- `serde_json::from_str` up to the tree of the text -/
  parseJson : String → Option JsonValue

/-- `Uuid::parse_str` reads what `Uuid::to_string` writes. -/
def Crates.ReadsHyphenated (crates : Crates) : Prop :=
  ∀ uuid : Uuid, crates.parseUuid uuid.hyphenated = some uuid

end VTNet
