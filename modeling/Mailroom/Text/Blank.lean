/-!
# Blank space

Blank space is the Unicode property `White_Space`, twenty-five code points. Trimming takes it off
both ends of a text.
-/

namespace Mailroom.Text

/-- First and last code point of each run of blank characters. -/
def blankRanges : List (Nat × Nat) :=
  [(0x9, 0xd), (0x20, 0x20), (0x85, 0x85), (0xa0, 0xa0), (0x1680, 0x1680), (0x2000, 0x200a),
   (0x2028, 0x2029), (0x202f, 0x202f), (0x205f, 0x205f), (0x3000, 0x3000)]

/-- Whether a character is blank. -/
def isBlank (c : Char) : Bool :=
  blankRanges.any fun (first, last) => first ≤ c.toNat && c.toNat ≤ last

/-- Takes the blanks off the front. -/
def trimStart (text : List Char) : List Char := text.dropWhile isBlank

/-- Takes the blanks off both ends. -/
def trim (text : List Char) : List Char := (trimStart (trimStart text).reverse).reverse

end Mailroom.Text
