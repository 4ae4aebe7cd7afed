import Mailroom.Bytes.Utf8
import Mailroom.Json.Value

/-!
# Writing JSON

The compact form has no blanks. Strings escape the quote, the backslash and control characters;
every other character stands for itself.
-/

namespace Mailroom.Json

/-- The bytes of ASCII characters. -/
def ascii (chars : List Char) : List UInt8 := chars.map fun c => UInt8.ofNat c.toNat

/-- The digit for a half byte. -/
def hexByte (value : Nat) : UInt8 := UInt8.ofNat (Nat.digitChar value).toNat

/-- A byte of a text as it stands in a string literal. -/
def escapeByte (byte : UInt8) : List UInt8 :=
  if byte = 0x22 then ascii ['\\', '"']
  else if byte = 0x5c then ascii ['\\', '\\']
  else if byte = 0x08 then ascii ['\\', 'b']
  else if byte = 0x09 then ascii ['\\', 't']
  else if byte = 0x0a then ascii ['\\', 'n']
  else if byte = 0x0c then ascii ['\\', 'f']
  else if byte = 0x0d then ascii ['\\', 'r']
  else if byte < 0x20 then
    ascii ['\\', 'u', '0', '0'] ++ [hexByte (byte.toNat / 16), hexByte (byte.toNat % 16)]
  else [byte]

/-- A string literal. What names no text is written as the shortest literal that names none. -/
def writeString : Option String → List UInt8
  | some text => 0x22 :: (Utf8.bytes text).flatMap escapeByte ++ [0x22]
  | none => ascii ['"', '\\', 'u', 'd', '8', '0', '0', '"']

/-- A number literal. Its exponent carries a sign, also if it is not negative. -/
def writeNumeral (numeral : Numeral) : List UInt8 :=
  (if numeral.negative then [0x2d] else [])
    ++ ascii (Nat.toDigits 10 numeral.whole)
    ++ (if numeral.fraction = [] then [] else 0x2e :: numeral.fraction.map hexByte)
    ++ (match numeral.exponent with
      | none => []
      | some power =>
        0x65 :: (if power < 0 then 0x2d else 0x2b) :: ascii (Nat.toDigits 10 power.natAbs))

mutual

/-- A value in compact form. -/
def write : Json → List UInt8
  | .null => ascii ['n', 'u', 'l', 'l']
  | .bool true => ascii ['t', 'r', 'u', 'e']
  | .bool false => ascii ['f', 'a', 'l', 's', 'e']
  | .number numeral => writeNumeral numeral
  | .string text => writeString text
  | .array items => 0x5b :: writeItems items ++ [0x5d]
  | .object members => 0x7b :: writeMembers members ++ [0x7d]

/-- Items with commas between them. -/
def writeItems : List Json → List UInt8
  | [] => []
  | [item] => write item
  | item :: rest => write item ++ 0x2c :: writeItems rest

/-- Members with commas between them. -/
def writeMembers : List (Option String × Json) → List UInt8
  | [] => []
  | [(name, value)] => writeString name ++ 0x3a :: write value
  | (name, value) :: rest => writeString name ++ 0x3a :: write value ++ 0x2c :: writeMembers rest

end

end Mailroom.Json
