import Mailroom.Json.Value

/-!
# Records and choices in JSON

A record is an object with a member for every field, in any order, or an array with every field
in its place. Unknown members of an object are passed over, a repeated field is refused, and a
missing field reads as null where null is allowed. A choice is its name alone, or an object whose
one member carries the content under the name.
-/

namespace Mailroom.Json

/-- The values under a name, in order. -/
def valuesOf (name : String) (members : List (Option String × Json)) : List Json :=
  members.filterMap fun (key, value) => if key = some name then some value else none

/-- The one value under a name, `none` inside if there is no such member; nothing if there are
several. -/
def field? (members : List (Option String × Json)) (name : String) : Option (Option Json) :=
  match valuesOf name members with
  | [] => some none
  | [value] => some (some value)
  | _ => none

/-- The values of the named fields, in the order of the names. -/
def fields? (names : List String) : Json → Option (List (Option Json))
  | .object members =>
    if members.all fun (key, _) => key.isSome then names.mapM (field? members) else none
  | .array items => if items.length = names.length then some (items.map some) else none
  | _ => none

/-- The values of the named fields of a record that admits no other members. -/
def closedFields? (names : List String) : Json → Option (List (Option Json))
  | .object members =>
    if members.all fun (key, _) => key.any names.contains then names.mapM (field? members) else none
  | .array items => if items.length = names.length then some (items.map some) else none
  | _ => none

/-- A field that must be there. -/
def required {α : Type} (decode : Json → Option α) (field : Option Json) : Option α :=
  field.bind decode

/-- A value or null. -/
def nullable? {α : Type} (decode : Json → Option α) : Json → Option (Option α)
  | .null => some none
  | value => (decode value).map some

/-- A field that may be null or missing. -/
def optional {α : Type} (decode : Json → Option α) : Option Json → Option (Option α)
  | none => some none
  | some value => nullable? decode value

/-- The name of a choice and its content, if it has one. -/
def choice? : Json → Option (String × Option Json)
  | .string (some name) => some (name, none)
  | .object [(some name, content)] => some (name, some content)
  | _ => none

/-- The content of a choice that carries nothing: left out, or null. -/
def isPlain : Option Json → Bool
  | none => true
  | some .null => true
  | some _ => false

/-- A text. -/
def toText? : Json → Option String
  | .string text => text
  | _ => none

/-- A truth value. -/
def toBool? : Json → Option Bool
  | .bool value => some value
  | _ => none

/-- An integer within bounds. -/
def toInt? (least most : Int) : Json → Option Int
  | .number numeral => numeral.toIntWithin? least most
  | _ => none

/-- A byte. -/
def toUInt8? (value : Json) : Option UInt8 :=
  (value.toInt? 0 255).map fun n => UInt8.ofNat n.toNat

/-- A number of 32 bits without sign. -/
def toUInt32? (value : Json) : Option UInt32 :=
  (value.toInt? 0 4294967295).map fun n => UInt32.ofNat n.toNat

/-- A number of 64 bits without sign. -/
def toUInt64? (value : Json) : Option UInt64 :=
  (value.toInt? 0 18446744073709551615).map fun n => UInt64.ofNat n.toNat

/-- A number of 32 bits with sign. -/
def toInt32? (value : Json) : Option Int32 :=
  (value.toInt? (-2147483648) 2147483647).map Int32.ofInt

/-- A number of 64 bits with sign. -/
def toInt64? (value : Json) : Option Int64 :=
  (value.toInt? (-9223372036854775808) 9223372036854775807).map Int64.ofInt

/-- A double. -/
def toFloat? : Json → Option Float
  | .number numeral => numeral.toFloat?
  | _ => none

/-- An array of decoded items. -/
def toList? {α : Type} (decode : Json → Option α) : Json → Option (List α)
  | .array items => items.mapM decode
  | _ => none

end Mailroom.Json
