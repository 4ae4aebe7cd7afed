import Mailroom.Identity.Group
import Mailroom.Identity.RowId
import Mailroom.Proofs.Identity.Uuid
import Mailroom.Proofs.Json.Kept

/-!
# Identifiers are kept in JSON

UUIDs, row identifiers, keys and group identifiers are read back from their JSON forms, whatever
their value. Most of them only give a name to a value that is kept itself, for which there is
`Json.Kept.named`.
-/

namespace Mailroom

/-- UUIDs are kept. -/
theorem Uuid.kept (id : Uuid) : Json.Kept toJson ofJson? id where
  written := Json.written_text _
  solid := nofun
  back := by
    rw [ofJson?, toJson, (Json.kept_text _).back, Option.bind_some, parse?_text]

/-- Identities at the service are kept. -/
theorem ServiceId.kept (id : ServiceId) : Json.Kept toJson ofJson? id :=
  id.uuid.kept.named ServiceId.mk ServiceId.uuid rfl

/-- Row identifiers are kept. -/
theorem RowId.kept {kind : RowKind} (id : RowId kind) : Json.Kept toJson ofJson? id :=
  (Json.kept_signed64 id.value).named RowId.mk RowId.value rfl

/-- Lists of row identifiers are kept. -/
theorem RowId.kept_list {kind : RowKind} (ids : List (RowId kind)) :
    Json.Kept (Json.list toJson) (Json.toList? ofJson?) ids :=
  Json.kept_list fun id _ => id.kept

/-- Blocks are kept. -/
theorem Block.kept {size : Nat} (block : Block size) : Json.Kept toJson (ofJson? size) block where
  written := (Json.kept_bytes block.bytes).written
  solid := (Json.kept_bytes block.bytes).solid
  back := by
    rw [ofJson?, toJson, (Json.kept_bytes block.bytes).back, Option.bind_some, ofBytes?_bytes]

/-- Master keys are kept. -/
theorem MasterKey.kept (key : MasterKey) : Json.Kept toJson ofJson? key :=
  key.block.kept.named MasterKey.mk MasterKey.block rfl

/-- Group identifiers are kept, with their version. -/
theorem GroupId.kept (id : GroupId) : Json.Kept toJson ofJson? id := by
  rcases id with identifier | identifier
  all_goals
    constructor
    case written => exact Json.written_record (by simpa using identifier.kept.written)
    case solid => exact nofun
    case back =>
      rw [ofJson?, toJson, Json.choice?_record]
      simp only [Option.bind_eq_bind, Option.bind_some]
      rw [identifier.kept.back, Option.map_some]

end Mailroom
