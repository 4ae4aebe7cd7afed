import Mailroom.Bytes.Block

/-!
# Hexadecimal text

Every byte is written as two digits, high half first and in lower case. Reading accepts either
case. `decode?_encode` says that what is written reads back.
-/

namespace Mailroom.Hex

/-- The digit for a value below sixteen. -/
def digit (value : Nat) : Char := Nat.digitChar value

/-- The value of a digit in either case. -/
def value? (c : Char) : Option Nat :=
  if '0' ≤ c ∧ c ≤ '9' then some (c.toNat - '0'.toNat)
  else if 'a' ≤ c ∧ c ≤ 'f' then some (c.toNat - 'a'.toNat + 10)
  else if 'A' ≤ c ∧ c ≤ 'F' then some (c.toNat - 'A'.toNat + 10)
  else none

/-- The two digits of a byte. -/
def pair (byte : UInt8) : List Char := [digit (byte.toNat / 16), digit (byte.toNat % 16)]

/-- Bytes as text. -/
def encode (bytes : List UInt8) : List Char := bytes.flatMap pair

/-- The bytes that pairs of digits spell; nothing if a digit is missing or foreign. -/
def decode? : List Char → Option (List UInt8)
  | [] => some []
  | [_] => none
  | high :: low :: rest => do
    let h ← value? high
    let l ← value? low
    let bytes ← decode? rest
    some (UInt8.ofNat (16 * h + l) :: bytes)

/-- Each of the sixteen digits reads back as its value. -/
theorem value?_digit {value : Nat} (small : value < 16) : value? (digit value) = some value := by
  have all : ∀ v : Fin 16, value? (digit v.val) = some v.val := by decide
  exact all ⟨value, small⟩

/-- Reading inverts writing. -/
@[simp] theorem decode?_encode (bytes : List UInt8) : decode? (encode bytes) = some bytes := by
  induction bytes with
  | nil => rfl
  | cons byte rest ih =>
    have hb := byte.toNat_lt
    show decode? (digit (byte.toNat / 16) :: digit (byte.toNat % 16) :: encode rest) = _
    have whole : 16 * (byte.toNat / 16) + byte.toNat % 16 = byte.toNat := by omega
    rw [decode?, value?_digit (by omega), value?_digit (by omega), ih]
    simp only [Option.bind_eq_bind, Option.bind_some, whole, UInt8.ofNat_toNat]

/-- A byte string is written in twice as many digits. -/
@[simp] theorem length_encode (bytes : List UInt8) : (encode bytes).length = 2 * bytes.length := by
  induction bytes with
  | nil => rfl
  | cons byte rest ih =>
    show (pair byte ++ encode rest).length = _
    rw [List.length_append, ih, List.length_cons]
    simp [pair]
    omega

/-- Different byte strings are written differently. -/
theorem encode_injective {left right : List UInt8} (h : encode left = encode right) :
    left = right := by
  have := congrArg decode? h
  simpa using this

end Mailroom.Hex

namespace Mailroom.Block

/-- The hexadecimal digits of a block. -/
def hex {size : Nat} (block : Block size) : String := String.ofList (Hex.encode block.bytes)

end Mailroom.Block
