import Mailroom.Bytes.Digest
import Mailroom.Bytes.Hex
import Mailroom.Bytes.Utf8
import Mailroom.Identity.Error
import Mailroom.Json.Block

/-!
# Groups and their keys

All that a group of the second version needs locally is derived from its master key: the digest
of a label and the key is the group's secret, and the digest of another label and that secret is
its identifier. Key material never appears in what is shown.
-/

namespace Mailroom

/-- The secret that the members of a group share. -/
structure MasterKey where
  /-- Its thirty-two bytes. -/
  block : Block 32
  deriving DecidableEq

namespace MasterKey

/-- A key from bytes. -/
def ofBytes (bytes : List UInt8) : Except IdentityError MasterKey :=
  match Block.ofBytes? 32 bytes with
  | some block => .ok ⟨block⟩
  | none => .error (.groupKey ("expected 32 bytes, got " ++ toString bytes.length))

/-- What is shown of a key. -/
def shown : String := "GroupMasterKey(..)"

/-- A key as an array of bytes. -/
def toJson (key : MasterKey) : Json := key.block.toJson

/-- The key that an array holds. -/
def ofJson? (value : Json) : Option MasterKey := (Block.ofJson? 32 value).map MasterKey.mk

end MasterKey

/-- Bytes as a list of numbers. -/
def Block.shown {size : Nat} (block : Block size) : String :=
  "[" ++ String.intercalate ", " (block.bytes.map fun byte => toString byte.toNat) ++ "]"

/-- What is derived from a master key. -/
structure GroupSecret where
  /-- The secret parameters. -/
  secret : Block 32
  /-- The public identifier. -/
  identifier : Block 32
  deriving DecidableEq

namespace GroupSecret

/-- Derives the parameters of a key. -/
def derive (key : MasterKey) : GroupSecret :=
  let secret := Digest.sha256 (Utf8.bytes "courier/group/secret-params/v1" ++ key.block.bytes)
  ⟨secret, Digest.sha256 (Utf8.bytes "courier/group/identifier/v1" ++ secret.bytes)⟩

/-- What is shown of the parameters: only the identifier. -/
def shown (params : GroupSecret) : String :=
  "GroupSecretParams \x7b public: GroupPublicParams \x7b group_identifier: "
    ++ params.identifier.shown ++ " \x7d, .. \x7d"

end GroupSecret

/-- The identifier of a group. -/
inductive GroupId where
  /-- A group of the first version, which cannot carry admin actions. -/
  | v1 (identifier : Block 16)
  /-- A group whose state is derived from a master key. -/
  | v2 (identifier : Block 32)
  deriving DecidableEq

namespace GroupId

/-- The group of a master key. -/
def ofMasterKey (key : MasterKey) : GroupId := .v2 (GroupSecret.derive key).identifier

/-- Whether the group is of the second version. -/
def isV2 : GroupId → Bool
  | .v1 _ => false
  | .v2 _ => true

/-- The identifier as text; a mark in front tells the versions apart. -/
def text : GroupId → String
  | .v1 identifier => "__textsecure_group__!" ++ identifier.hex
  | .v2 identifier => "__signal_group__v2__!" ++ identifier.hex

/-- The identifier as a list of numbers with its version. -/
def shown : GroupId → String
  | .v1 identifier => "V1(" ++ identifier.shown ++ ")"
  | .v2 identifier => "V2(" ++ identifier.shown ++ ")"

/-- An identifier as a choice of version. -/
def toJson : GroupId → Json
  | .v1 identifier => .record [("v1", identifier.toJson)]
  | .v2 identifier => .record [("v2", identifier.toJson)]

/-- The identifier that a choice of version carries. -/
def ofJson? (value : Json) : Option GroupId := do
  match ← value.choice? with
  | ("v1", some content) => (Block.ofJson? 16 content).map GroupId.v1
  | ("v2", some content) => (Block.ofJson? 32 content).map GroupId.v2
  | _ => none

end GroupId

end Mailroom
