/-!
# Text as bytes

Text is kept in UTF-8. `text?_bytes` says that the bytes of a text are read as that text. `repair`
reads any bytes: it takes the longest pieces that could begin a character and writes one
replacement character for each piece that is none.
-/

namespace Mailroom.Utf8

/-- The bytes of a text. -/
def bytes (text : String) : List UInt8 := text.toByteArray.data.toList

/-- The text that bytes encode; nothing if they are not UTF-8. -/
def text? (bytes : List UInt8) : Option String := String.fromUTF8? ⟨bytes.toArray⟩

/-- The bytes of a text are read as that text. -/
@[simp] theorem text?_bytes (text : String) : text? (bytes text) = some text := by
  have whole : (⟨(bytes text).toArray⟩ : ByteArray) = text.toByteArray := by
    simp [bytes]
  rw [text?, whole, String.fromUTF8?, dif_pos text.isValidUTF8]
  rfl

/-- A character of which some bytes were read: how many are missing, the bounds of the next one,
and the code so far. -/
structure Begun where
  missing : Nat
  least : UInt8
  most : UInt8
  code : Nat

/-- The character that stands for bytes that are none. -/
def replacement : Char := '\ufffd'

/-- What a byte in front means: a whole character, the begin of one, or nothing. -/
def begin? (byte : UInt8) : Option (Char ⊕ Begun) :=
  let n := byte.toNat
  if n < 0x80 then some (.inl (Char.ofNat n))
  else if n < 0xc2 then none
  else if n < 0xe0 then some (.inr ⟨1, 0x80, 0xbf, n - 0xc0⟩)
  else if n = 0xe0 then some (.inr ⟨2, 0xa0, 0xbf, 0⟩)
  else if n = 0xed then some (.inr ⟨2, 0x80, 0x9f, n - 0xe0⟩)
  else if n < 0xf0 then some (.inr ⟨2, 0x80, 0xbf, n - 0xe0⟩)
  else if n = 0xf0 then some (.inr ⟨3, 0x90, 0xbf, 0⟩)
  else if n < 0xf4 then some (.inr ⟨3, 0x80, 0xbf, n - 0xf0⟩)
  else if n = 0xf4 then some (.inr ⟨3, 0x80, 0x8f, n - 0xf0⟩)
  else none

/-- The character, begun or finished, that a byte leads to when none is begun. -/
def front (byte : UInt8) : List Char × Option Begun :=
  match begin? byte with
  | some (.inl c) => ([c], none)
  | some (.inr begun) => ([], some begun)
  | none => ([replacement], none)

/-- What a byte adds to a character that may be begun. -/
def next (byte : UInt8) : Option Begun → List Char × Option Begun
  | none => front byte
  | some begun =>
    if begun.least ≤ byte && byte ≤ begun.most then
      let code := begun.code * 64 + byte.toNat % 64
      if begun.missing = 1 then ([Char.ofNat code], none)
      else ([], some ⟨begun.missing - 1, 0x80, 0xbf, code⟩)
    else
      let (characters, begun) := front byte
      (replacement :: characters, begun)

/-- The characters of bytes behind a character that may be begun. -/
def repairFrom : Option Begun → List UInt8 → List Char
  | none, [] => []
  | some _, [] => [replacement]
  | begun, byte :: rest =>
    let (characters, begun) := next byte begun
    characters ++ repairFrom begun rest

/-- The text of any bytes. -/
def repair (bytes : List UInt8) : String := String.ofList (repairFrom none bytes)

end Mailroom.Utf8
