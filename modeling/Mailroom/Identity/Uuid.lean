import Mailroom.Bytes.Hex
import Mailroom.Identity.Error
import Mailroom.Json.Fields

/-!
# UUIDs

A UUID is sixteen bytes. It is written as thirty-two lower-case digits in groups of 8, 4, 4, 4
and 12 with hyphens between them. It is read in that form, in either case, with all hyphens left
out, in braces, or behind `urn:uuid:`.
-/

namespace Mailroom

/-- A universally unique identifier. -/
structure Uuid where
  /-- Its sixteen bytes. -/
  block : Block 16
  deriving DecidableEq

namespace Uuid

instance : Inhabited Uuid := ⟨⟨.zero 16⟩⟩

/-- The numbers of digits between hyphens. -/
def groups : List Nat := [8, 4, 4, 4, 12]

/-- Splits digits into groups with hyphens between them. -/
def hyphenate : List Nat → List Char → List Char
  | [], digits => digits
  | [_], digits => digits
  | count :: counts, digits => digits.take count ++ '-' :: hyphenate counts (digits.drop count)

/-- Joins groups of the given sizes with hyphens between them. -/
def dehyphenate : List Nat → List Char → Option (List Char)
  | [], _ => none
  | [count], text => if text.length = count then some text else none
  | count :: counts, text =>
    match text.drop count with
    | '-' :: rest => (dehyphenate counts rest).map (text.take count ++ ·)
    | _ => none

/-- The identifier in groups of digits. -/
def text (id : Uuid) : String := String.ofList (hyphenate groups (Hex.encode id.block.bytes))

/-- The identifier that thirty-two digits spell. -/
def ofDigits? (digits : List Char) : Option Uuid := do
  let bytes ← Hex.decode? digits
  (Block.ofBytes? 16 bytes).map Uuid.mk

/-- Reads groups of digits. -/
def ofGroups? (text : List Char) : Option Uuid := (dehyphenate groups text).bind ofDigits?

/-- Reads an identifier in any of its forms, which differ in length. -/
def parse? (text : List Char) : Option Uuid :=
  if text.length = 32 then ofDigits? text
  else if text.length = 36 then ofGroups? text
  else if text.length = 38 then
    if text.head? = some '\x7b' ∧ text.getLast? = some '\x7d' then ofGroups? (text.drop 1).dropLast
    else none
  else if text.length = 45 then
    if (text.take 9).map Char.toLower = ['u', 'r', 'n', ':', 'u', 'u', 'i', 'd', ':'] then
      ofGroups? (text.drop 9)
    else none
  else none

/-- An identifier as a string. -/
def toJson (id : Uuid) : Json := .text id.text

/-- The identifier that a string names. -/
def ofJson? (value : Json) : Option Uuid := value.toText?.bind fun text => parse? text.toList

end Uuid

/-- The identity of an account at the service. A recipient without one cannot be addressed. -/
structure ServiceId where
  /-- The identity itself. -/
  uuid : Uuid
  deriving DecidableEq

namespace ServiceId

instance : Inhabited ServiceId := ⟨⟨default⟩⟩

/-- The identity as text. -/
def text (id : ServiceId) : String := id.uuid.text

/-- The identity with its name. -/
def shown (id : ServiceId) : String := "ServiceId(" ++ id.text ++ ")"

/-- Reads an identity. -/
def parse (text : String) : Except IdentityError ServiceId :=
  match Uuid.parse? text.toList with
  | some uuid => .ok ⟨uuid⟩
  | none => .error (.identifier "ServiceId: malformed UUID")

/-- An identity as a string. -/
def toJson (id : ServiceId) : Json := id.uuid.toJson

/-- The identity that a string names. -/
def ofJson? (value : Json) : Option ServiceId := (Uuid.ofJson? value).map ServiceId.mk

end ServiceId

end Mailroom
