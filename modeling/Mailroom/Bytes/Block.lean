/-!
# Blocks

A block is a byte string of a length fixed by its type. Identifiers, keys and digests are blocks.
Blocks of one length are ordered as the big-endian numbers they spell; `number_injective` says
that the number tells them apart.
-/

namespace Mailroom

/-- A byte string of a fixed length. -/
structure Block (size : Nat) where
  /-- The bytes in order. -/
  bytes : List UInt8
  /-- There are as many as the type says. -/
  length_eq : bytes.length = size
  deriving DecidableEq

namespace Block

variable {size : Nat}

/-- Blocks with the same bytes are equal. -/
@[ext] theorem ext {left right : Block size} (h : left.bytes = right.bytes) : left = right := by
  cases left
  cases right
  cases h
  rfl

/-- A block from bytes, if there are exactly as many as it holds. -/
def ofBytes? (size : Nat) (bytes : List UInt8) : Option (Block size) :=
  if h : bytes.length = size then some ⟨bytes, h⟩ else none

/-- The block of zero bytes. -/
def zero (size : Nat) : Block size := ⟨List.replicate size 0, List.length_replicate⟩

instance : Inhabited (Block size) := ⟨zero size⟩

/-- The bytes of a block make up that block. -/
@[simp] theorem ofBytes?_bytes (block : Block size) : ofBytes? size block.bytes = some block := by
  simp [ofBytes?, block.length_eq]

/-- The last bytes of a number, most significant first. -/
def lastBytes : Nat → Nat → List UInt8
  | 0, _ => []
  | size + 1, n => lastBytes size (n / 256) ++ [UInt8.ofNat (n % 256)]

/-- As many bytes are taken as are asked for. -/
theorem length_lastBytes (size n : Nat) : (lastBytes size n).length = size := by
  induction size generalizing n with
  | zero => rfl
  | succ size ih => simp [lastBytes, ih]

/-- The block that spells a number, cut to its last bytes. -/
def ofNumber (size n : Nat) : Block size := ⟨lastBytes size n, length_lastBytes size n⟩

/-- The number that bytes spell, most significant first. -/
def valueOf (bytes : List UInt8) : Nat := bytes.foldl (fun value byte => value * 256 + byte.toNat) 0

/-- The number that a block spells, most significant byte first. -/
def number (block : Block size) : Nat := valueOf block.bytes

/-- How many byte strings of a length there are. -/
def count : Nat → Nat
  | 0 => 1
  | size + 1 => 256 * count size

/-- There is a byte string of every length. -/
theorem count_pos (size : Nat) : 0 < count size := by
  induction size with
  | zero => decide
  | succ size ih => exact Nat.mul_pos (by decide) ih

/-- A fold that starts from a value shifts that value past the bytes. -/
theorem foldl_valueOf (bytes : List UInt8) (start : Nat) :
    bytes.foldl (fun value byte => value * 256 + byte.toNat) start
      = start * count bytes.length + valueOf bytes := by
  induction bytes generalizing start with
  | nil => simp [valueOf, count]
  | cons byte rest ih =>
    simp only [List.foldl_cons, List.length_cons, valueOf, count]
    rw [ih, ih (0 * 256 + byte.toNat), Nat.add_mul]
    rw [Nat.zero_mul, Nat.zero_add, Nat.mul_assoc, Nat.add_assoc]

/-- The value of a byte in front counts once for every value of the bytes behind it. -/
theorem valueOf_cons (byte : UInt8) (rest : List UInt8) :
    valueOf (byte :: rest) = byte.toNat * count rest.length + valueOf rest := by
  rw [valueOf, List.foldl_cons, foldl_valueOf]
  simp

/-- The number of a byte string lies below how many there are of its length. -/
theorem valueOf_lt (bytes : List UInt8) : valueOf bytes < count bytes.length := by
  induction bytes with
  | nil => simp [valueOf, count]
  | cons byte rest ih =>
    rw [valueOf_cons, List.length_cons, count]
    have hb : byte.toNat ≤ 255 := Nat.le_of_lt_succ byte.toNat_lt
    calc byte.toNat * count rest.length + valueOf rest
        < byte.toNat * count rest.length + count rest.length := by omega
      _ = (byte.toNat + 1) * count rest.length := by rw [Nat.add_mul, Nat.one_mul]
      _ ≤ 256 * count rest.length := Nat.mul_le_mul_right _ (by omega)

/-- Byte strings of one length that spell the same number are equal. -/
theorem valueOf_injective {left right : List UInt8} (sameLength : left.length = right.length)
    (h : valueOf left = valueOf right) : left = right := by
  induction left generalizing right with
  | nil => exact (List.eq_nil_of_length_eq_zero sameLength.symm).symm
  | cons byte rest ih =>
    cases right with
    | nil => cases sameLength
    | cons byte' rest' =>
      have hl : rest.length = rest'.length := Nat.succ.inj sameLength
      rw [valueOf_cons, valueOf_cons, hl] at h
      have h1 := valueOf_lt rest
      have h2 := valueOf_lt rest'
      rw [hl] at h1
      have hp := count_pos rest'.length
      have hq := congrArg (· / count rest'.length) h
      simp only [Nat.mul_comm _ (count rest'.length), Nat.mul_add_div hp,
        Nat.div_eq_of_lt h1, Nat.div_eq_of_lt h2, Nat.add_zero] at hq
      have hb : byte = byte' := UInt8.toNat_inj.1 hq
      subst hb
      have hr : valueOf rest = valueOf rest' := Nat.add_left_cancel h
      rw [ih hl hr]

/-- Blocks of one length are told apart by their numbers. -/
theorem number_injective {left right : Block size} (h : left.number = right.number) :
    left = right :=
  ext (valueOf_injective (left.length_eq.trans right.length_eq.symm) h)

end Block

end Mailroom
