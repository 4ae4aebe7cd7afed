import Mailroom.Bytes.Hex
import Mailroom.Bytes.Utf8
import Mailroom.Json.Value

/-!
# Reading JSON

Readers take bytes off the front and return what is left. A literal needs nothing between itself
and what follows, so the longest one is taken. Blanks are space, tab, line feed and carriage
return, between any two tokens. Nothing may follow the value but blanks.
-/

namespace Mailroom.Json

/-- Whether a byte is blank. -/
def isBlank (byte : UInt8) : Bool := byte = 0x20 || byte = 0x0a || byte = 0x0d || byte = 0x09

/-- Takes blanks off the front. -/
def skipBlanks (bytes : List UInt8) : List UInt8 := bytes.dropWhile isBlank

/-- Whether a byte is a decimal digit. -/
def isDigit (byte : UInt8) : Bool := 0x30 ≤ byte && byte ≤ 0x39

/-- The value of a decimal digit. -/
def digitValue (byte : UInt8) : Nat := byte.toNat - 0x30

/-- The number that decimal digits spell. -/
def digitsValue (digits : List UInt8) : Nat :=
  digits.foldl (fun value byte => value * 10 + digitValue byte) 0

/-- One part of a string literal: a byte, or a code unit that an escape names. -/
inductive Piece where
  | byte (value : UInt8)
  | unit (value : Nat)

/-- The value of the four digits of an escape. -/
def escapeValue? (a b c d : UInt8) : Option Nat := do
  let hex (byte : UInt8) := Hex.value? (Char.ofNat byte.toNat)
  some (((← hex a) * 16 + (← hex b)) * 256 + (← hex c) * 16 + (← hex d))

/-- The byte that a short escape stands for. -/
def shortEscape? (letter : UInt8) : Option UInt8 :=
  if letter = 0x22 || letter = 0x5c || letter = 0x2f then some letter
  else if letter = 0x62 then some 0x08
  else if letter = 0x66 then some 0x0c
  else if letter = 0x6e then some 0x0a
  else if letter = 0x72 then some 0x0d
  else if letter = 0x74 then some 0x09
  else none

/-- The parts of a string literal behind its opening quote, up to the closing one. -/
def readPieces : List UInt8 → Option (List Piece × List UInt8)
  | [] => none
  | 0x22 :: rest => some ([], rest)
  | 0x5c :: 0x75 :: a :: b :: c :: d :: rest => do
    let unit ← escapeValue? a b c d
    let (pieces, rest) ← readPieces rest
    some (.unit unit :: pieces, rest)
  | 0x5c :: letter :: rest => do
    let byte ← shortEscape? letter
    let (pieces, rest) ← readPieces rest
    some (.byte byte :: pieces, rest)
  | byte :: rest =>
    if byte = 0x5c || byte < 0x20 then none
    else do
      let (pieces, rest) ← readPieces rest
      some (.byte byte :: pieces, rest)

/-- The bytes that parts stand for. Two units of a surrogate pair are one character; half of a
pair alone stands for nothing. -/
def joinPieces : List Piece → Option (List UInt8)
  | [] => some []
  | .byte byte :: rest => (joinPieces rest).map (byte :: ·)
  | [.unit unit] =>
    if 0xd800 ≤ unit && unit < 0xe000 then none
    else some (String.utf8EncodeChar (Char.ofNat unit))
  | .unit unit :: .unit next :: rest =>
    if 0xd800 ≤ unit && unit < 0xdc00 && 0xdc00 ≤ next && next < 0xe000 then
      let code := 0x10000 + (unit - 0xd800) * 0x400 + (next - 0xdc00)
      (joinPieces rest).map (String.utf8EncodeChar (Char.ofNat code) ++ ·)
    else if 0xd800 ≤ unit && unit < 0xe000 then none
    else (joinPieces (.unit next :: rest)).map (String.utf8EncodeChar (Char.ofNat unit) ++ ·)
  | .unit unit :: .byte byte :: rest =>
    if 0xd800 ≤ unit && unit < 0xe000 then none
    else (joinPieces (.byte byte :: rest)).map (String.utf8EncodeChar (Char.ofNat unit) ++ ·)

/-- What the parts of a literal say. -/
def textOfPieces (pieces : List Piece) : Option String := (joinPieces pieces).bind Utf8.text?

/-- A string literal behind its opening quote. -/
def readString (bytes : List UInt8) : Option (Option String × List UInt8) :=
  (readPieces bytes).map fun (pieces, rest) => (textOfPieces pieces, rest)

/-- The exponent at the front, if a mark stands there; nothing if a mark has no digits. -/
def readExponent (bytes : List UInt8) : Option (Option Int × List UInt8) :=
  match bytes with
  | mark :: rest =>
    if mark = 0x65 || mark = 0x45 then
      let (negative, rest) : Bool × List UInt8 := match rest with
        | 0x2d :: rest => (true, rest)
        | 0x2b :: rest => (false, rest)
        | rest => (false, rest)
      let digits := rest.takeWhile isDigit
      if digits = [] then none
      else
        let power : Int := digitsValue digits
        some (some (if negative then -power else power), rest.dropWhile isDigit)
    else some (none, bytes)
  | [] => some (none, bytes)

/-- The digits behind a point at the front; nothing if a point has no digits. -/
def readFraction (bytes : List UInt8) : Option (List Nat × List UInt8) :=
  match bytes with
  | 0x2e :: rest =>
    let digits := rest.takeWhile isDigit
    if digits = [] then none else some (digits.map digitValue, rest.dropWhile isDigit)
  | _ => some ([], bytes)

/-- A number literal behind its sign. A leading zero stands alone. -/
def readMagnitude (negative : Bool) (bytes : List UInt8) : Option (Numeral × List UInt8) := do
  let digits := bytes.takeWhile isDigit
  let rest := bytes.dropWhile isDigit
  if digits = [] || (digits.head? = some 0x30 && 1 < digits.length) then none
  else do
    let (fraction, rest) ← readFraction rest
    let (exponent, rest) ← readExponent rest
    some (⟨negative, digitsValue digits, fraction, exponent⟩, rest)

mutual

/-- A value at the front. The count bounds the nesting and the number of items passed. -/
def readValue : Nat → List UInt8 → Option (Json × List UInt8)
  | 0, _ => none
  | fuel + 1, bytes =>
    match bytes with
    | 0x6e :: 0x75 :: 0x6c :: 0x6c :: rest => some (.null, rest)
    | 0x74 :: 0x72 :: 0x75 :: 0x65 :: rest => some (.bool true, rest)
    | 0x66 :: 0x61 :: 0x6c :: 0x73 :: 0x65 :: rest => some (.bool false, rest)
    | 0x22 :: rest => (readString rest).map fun (text, rest) => (.string text, rest)
    | 0x5b :: rest =>
      match skipBlanks rest with
      | 0x5d :: rest => some (.array [], rest)
      | rest => (readItems fuel rest).map fun (items, rest) => (.array items, rest)
    | 0x7b :: rest =>
      match skipBlanks rest with
      | 0x7d :: rest => some (.object [], rest)
      | rest => (readMembers fuel rest).map fun (members, rest) => (.object members, rest)
    | 0x2d :: rest => (readMagnitude true rest).map fun (numeral, rest) => (.number numeral, rest)
    | bytes => (readMagnitude false bytes).map fun (numeral, rest) => (.number numeral, rest)

/-- Items up to the closing bracket. -/
def readItems : Nat → List UInt8 → Option (List Json × List UInt8)
  | 0, _ => none
  | fuel + 1, bytes => do
    let (item, rest) ← readValue fuel (skipBlanks bytes)
    match skipBlanks rest with
    | 0x5d :: rest => some ([item], rest)
    | 0x2c :: rest => (readItems fuel rest).map fun (items, rest) => (item :: items, rest)
    | _ => none

/-- Members up to the closing brace. -/
def readMembers : Nat → List UInt8 → Option (List (Option String × Json) × List UInt8)
  | 0, _ => none
  | fuel + 1, bytes =>
    match skipBlanks bytes with
    | 0x22 :: rest => do
      let (name, rest) ← readString rest
      match skipBlanks rest with
      | 0x3a :: rest => do
        let (value, rest) ← readValue fuel (skipBlanks rest)
        match skipBlanks rest with
        | 0x7d :: rest => some ([(name, value)], rest)
        | 0x2c :: rest =>
          (readMembers fuel rest).map fun (members, rest) => ((name, value) :: members, rest)
        | _ => none
      | _ => none
    | _ => none

end

/-- The value that a whole text holds. Two steps for every byte are more than any text needs. -/
def read? (bytes : List UInt8) : Option Json :=
  match readValue (2 * bytes.length + 1) (skipBlanks bytes) with
  | some (value, rest) => if skipBlanks rest = [] then some value else none
  | none => none

end Mailroom.Json
