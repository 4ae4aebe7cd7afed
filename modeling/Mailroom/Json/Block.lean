import Mailroom.Bytes.Block
import Mailroom.Json.Fields

/-!
# Byte strings in JSON

A byte string is an array of its bytes. A block takes exactly as many as it holds.
-/

namespace Mailroom

/-- Bytes as an array. -/
def Json.bytes (bytes : List UInt8) : Json := Json.list (fun byte => Json.int byte.toNat) bytes

/-- The bytes of an array. -/
def Json.toBytes? (value : Json) : Option (List UInt8) := value.toList? Json.toUInt8?

namespace Block

variable {size : Nat}

/-- A block as an array of its bytes. -/
def toJson (block : Block size) : Json := Json.bytes block.bytes

/-- The block that an array of the right length holds. -/
def ofJson? (size : Nat) (value : Json) : Option (Block size) :=
  value.toBytes?.bind (ofBytes? size)

end Block

end Mailroom
