import Mailroom.Json.Reader
import Mathlib.Data.List.DropRight

/-!
# The grammar of JSON

`Grammar.Value` relates a value to the bytes that spell it: any blanks between tokens, any escapes
in strings, any form of numbers, members in any number and order. What a text says of a string or
a number is part of the relation, so a value has many spellings and a spelling one value.

`read?_value` says that the reader understands every spelling. A number has no closing mark, so
what follows it must not carry it on; `Stops` is that condition, and every follower of a value
meets it.
-/

namespace Mailroom.Json

namespace Grammar

/-- Bytes that are all blank. -/
def Blanks (bytes : List UInt8) : Prop := ∀ byte ∈ bytes, isBlank byte = true

/-- At least one byte, and nothing but decimal digits. -/
structure Digits (bytes : List UInt8) : Prop where
  nonempty : bytes ≠ []
  digit : ∀ byte ∈ bytes, isDigit byte = true

/-- The digits behind the point, with the point, or nothing at all. -/
inductive Fraction : List Nat → List UInt8 → Prop where
  | absent : Fraction [] []
  | digits {digits : List UInt8} (spelled : Digits digits) :
    Fraction (digits.map digitValue) (0x2e :: digits)

/-- The sign of an exponent. -/
inductive Sign : Bool → List UInt8 → Prop where
  | absent : Sign false []
  | plus : Sign false [0x2b]
  | minus : Sign true [0x2d]

/-- An exponent with its mark, or nothing at all. -/
inductive Exponent : Option Int → List UInt8 → Prop where
  | absent : Exponent none []
  | power {mark : UInt8} (marked : mark = 0x65 ∨ mark = 0x45) {negative : Bool}
    {sign digits : List UInt8} (signed : Sign negative sign) (spelled : Digits digits) :
    Exponent
      (some (if negative then -(digitsValue digits : Int) else (digitsValue digits : Int)))
      (mark :: sign ++ digits)

/-- A number behind its sign. A leading zero stands alone. -/
inductive Magnitude (negative : Bool) : Numeral → List UInt8 → Prop where
  | spelled {whole : List UInt8} (digits : Digits whole)
    (short : whole.head? = some 0x30 → whole.length = 1) {fraction : List Nat}
    {point : List UInt8} (behind : Fraction fraction point) {exponent : Option Int}
    {scale : List UInt8} (scaled : Exponent exponent scale) :
    Magnitude negative ⟨negative, digitsValue whole, fraction, exponent⟩ (whole ++ point ++ scale)

/-- The parts of a string between its quotes. -/
inductive Pieces : List Piece → List UInt8 → Prop where
  | done : Pieces [] []
  | byte {value : UInt8} (unquoted : value ≠ 0x22) (unescaped : value ≠ 0x5c)
    (printable : ¬ value < 0x20) {pieces : List Piece} {bytes : List UInt8}
    (rest : Pieces pieces bytes) : Pieces (.byte value :: pieces) (value :: bytes)
  | short {letter value : UInt8} (known : shortEscape? letter = some value) {pieces : List Piece}
    {bytes : List UInt8} (rest : Pieces pieces bytes) :
    Pieces (.byte value :: pieces) (0x5c :: letter :: bytes)
  | unit {a b c d : UInt8} {value : Nat} (hex : escapeValue? a b c d = some value)
    {pieces : List Piece} {bytes : List UInt8} (rest : Pieces pieces bytes) :
    Pieces (.unit value :: pieces) (0x5c :: 0x75 :: a :: b :: c :: d :: bytes)

/-- A string with its quotes, and the text that it says, if it says any. -/
inductive Literal : Option String → List UInt8 → Prop where
  | quoted {pieces : List Piece} {bytes : List UInt8} (spelled : Pieces pieces bytes) :
    Literal (textOfPieces pieces) (0x22 :: (bytes ++ [0x22]))

mutual

/-- A value. -/
inductive Value : Json → List UInt8 → Prop where
  | null : Value .null [0x6e, 0x75, 0x6c, 0x6c]
  | yes : Value (.bool true) [0x74, 0x72, 0x75, 0x65]
  | no : Value (.bool false) [0x66, 0x61, 0x6c, 0x73, 0x65]
  | positive {numeral : Numeral} {bytes : List UInt8} (spelled : Magnitude false numeral bytes) :
    Value (.number numeral) bytes
  | negative {numeral : Numeral} {bytes : List UInt8} (spelled : Magnitude true numeral bytes) :
    Value (.number numeral) (0x2d :: bytes)
  | string {text : Option String} {bytes : List UInt8} (spelled : Literal text bytes) :
    Value (.string text) bytes
  | noItems {blanks : List UInt8} (blank : Blanks blanks) :
    Value (.array []) (0x5b :: (blanks ++ [0x5d]))
  | array {items : List Json} {bytes : List UInt8} (spelled : Items items bytes) :
    Value (.array items) (0x5b :: (bytes ++ [0x5d]))
  | noMembers {blanks : List UInt8} (blank : Blanks blanks) :
    Value (.object []) (0x7b :: (blanks ++ [0x7d]))
  | object {members : List (Option String × Json)} {bytes : List UInt8}
    (spelled : Members members bytes) : Value (.object members) (0x7b :: (bytes ++ [0x7d]))

/-- A value with blanks around it. -/
inductive Padded : Json → List UInt8 → Prop where
  | between {before bytes after : List UInt8} (left : Blanks before) (right : Blanks after)
    {value : Json} (spelled : Value value bytes) : Padded value (before ++ (bytes ++ after))

/-- At least one item, with commas between items. -/
inductive Items : List Json → List UInt8 → Prop where
  | last {item : Json} {bytes : List UInt8} (spelled : Padded item bytes) : Items [item] bytes
  | more {item : Json} {bytes : List UInt8} (spelled : Padded item bytes) {items : List Json}
    {rest : List UInt8} (later : Items items rest) : Items (item :: items) (bytes ++ 0x2c :: rest)

/-- A name and a value with a colon between them, and blanks around all three. -/
inductive Member : Option String × Json → List UInt8 → Prop where
  | pair {before head between bytes : List UInt8} (left : Blanks before) {name : Option String}
    (named : Literal name head) (inner : Blanks between) {value : Json}
    (spelled : Padded value bytes) :
    Member (name, value) (before ++ (head ++ (between ++ 0x3a :: bytes)))

/-- At least one member, with commas between members. -/
inductive Members : List (Option String × Json) → List UInt8 → Prop where
  | last {member : Option String × Json} {bytes : List UInt8} (spelled : Member member bytes) :
    Members [member] bytes
  | more {member : Option String × Json} {bytes : List UInt8} (spelled : Member member bytes)
    {members : List (Option String × Json)} {rest : List UInt8} (later : Members members rest) :
    Members (member :: members) (bytes ++ 0x2c :: rest)

end

theorem blanks_nil : Blanks [] := by
  intro byte held
  cases held

/-- What is spelled may stand between other marks without blanks. -/
theorem Value.padded {value : Json} {bytes : List UInt8} (spelled : Value value bytes) :
    Padded value bytes := by
  have padded := Padded.between blanks_nil blanks_nil spelled
  rwa [List.nil_append, List.append_nil] at padded

/-- No number goes on into the bytes. -/
def Stops (rest : List UInt8) : Prop :=
  ∀ byte ∈ rest.head?, isDigit byte = false ∧ byte ≠ 0x2e ∧ byte ≠ 0x65 ∧ byte ≠ 0x45

theorem stops_cons {byte : UInt8} {rest : List UInt8}
    (apart : isDigit byte = false ∧ byte ≠ 0x2e ∧ byte ≠ 0x65 ∧ byte ≠ 0x45) :
    Stops (byte :: rest) := by
  intro first here
  cases here
  exact apart

/-- Blanks carry no number on. -/
theorem Blanks.stops {blanks rest : List UInt8} (blank : Blanks blanks) (stops : Stops rest) :
    Stops (blanks ++ rest) := by
  cases blanks with
  | nil => exact stops
  | cons first more =>
    have white := blank first List.mem_cons_self
    refine stops_cons ?_
    simp only [isBlank, Bool.or_eq_true, decide_eq_true_eq] at white
    rcases white with ((rfl | rfl) | rfl) | rfl <;> decide

/-- Skipping blanks skips those in front. -/
theorem Blanks.skip {blanks : List UInt8} (blank : Blanks blanks) (rest : List UInt8) :
    skipBlanks (blanks ++ rest) = skipBlanks rest :=
  List.dropWhile_append_of_pos blank

theorem skipBlanks_of_not_blank {byte : UInt8} (solid : isBlank byte = false) (rest : List UInt8) :
    skipBlanks (byte :: rest) = byte :: rest :=
  List.dropWhile_cons_of_neg (by simp [solid])

/-- All digits are read, up to a byte that is none. -/
theorem Digits.span {digits rest : List UInt8} (spelled : Digits digits)
    (ends : ∀ byte ∈ rest.head?, isDigit byte = false) :
    (digits ++ rest).takeWhile isDigit = digits ∧ (digits ++ rest).dropWhile isDigit = rest := by
  rw [List.takeWhile_append_of_pos spelled.digit, List.dropWhile_append_of_pos spelled.digit]
  cases rest with
  | nil => exact ⟨List.append_nil _, rfl⟩
  | cons first more =>
    have other := ends first rfl
    exact ⟨by simp [other], by simp [other]⟩

/-- Behind a fraction, or without one, the digits in front have ended. -/
theorem Fraction.ends {digits : List Nat} {bytes rest : List UInt8}
    (spelled : Fraction digits bytes) (ends : ∀ byte ∈ rest.head?, isDigit byte = false) :
    ∀ byte ∈ (bytes ++ rest).head?, isDigit byte = false := by
  cases spelled with
  | absent => exact ends
  | digits spelled =>
    intro byte here
    cases here
    rfl

/-- The reader takes a fraction up to a byte that is neither a digit nor a point. -/
theorem Fraction.read {digits : List Nat} {bytes rest : List UInt8}
    (spelled : Fraction digits bytes)
    (ends : ∀ byte ∈ rest.head?, isDigit byte = false ∧ byte ≠ 0x2e) :
    readFraction (bytes ++ rest) = some (digits, rest) := by
  cases spelled with
  | absent =>
    rw [List.nil_append]
    unfold readFraction
    split
    · exact absurd rfl (ends 0x2e rfl).2
    · rfl
  | digits spelled =>
    obtain ⟨taken, left⟩ := spelled.span fun byte here => (ends byte here).1
    rw [List.cons_append, readFraction]
    simp only [taken, left, if_neg spelled.nonempty]

/-- An exponent, or none, begins with neither a digit nor a point. -/
theorem Exponent.ends {power : Option Int} {bytes rest : List UInt8}
    (spelled : Exponent power bytes)
    (ends : ∀ byte ∈ rest.head?, isDigit byte = false ∧ byte ≠ 0x2e) :
    ∀ byte ∈ (bytes ++ rest).head?, isDigit byte = false ∧ byte ≠ 0x2e := by
  cases spelled with
  | absent => exact ends
  | power marked signed spelled =>
    intro byte here
    cases here
    rcases marked with rfl | rfl <;> exact ⟨rfl, by decide⟩

/-- The reader takes an exponent up to a byte that is neither a digit nor a mark. -/
theorem Exponent.read {power : Option Int} {bytes rest : List UInt8}
    (spelled : Exponent power bytes) (stops : Stops rest) :
    readExponent (bytes ++ rest) = some (power, rest) := by
  cases spelled with
  | absent =>
    cases rest with
    | nil => rfl
    | cons first more =>
      obtain ⟨-, -, small, large⟩ := stops first rfl
      simp [readExponent, small, large]
  | @power mark marked negative sign digits signed spelled =>
    obtain ⟨taken, left⟩ := spelled.span fun byte here => (stops byte here).1
    have isMark : (mark = 0x65 || mark = 0x45) = true := by
      rcases marked with rfl | rfl <;> rfl
    rw [List.cons_append, List.cons_append, List.append_assoc]
    unfold readExponent
    dsimp only
    rw [if_pos isMark]
    cases signed with
    | absent =>
      cases digits with
      | nil => exact absurd rfl spelled.nonempty
      | cons first more =>
        have digit := spelled.digit first List.mem_cons_self
        have unsigned : first ≠ 0x2d ∧ first ≠ 0x2b := by
          constructor <;> rintro rfl <;> cases digit
        simp only [List.cons_append] at taken left
        simp [unsigned, taken, left]
    | plus => simp [taken, left, spelled.nonempty]
    | minus => simp [taken, left, spelled.nonempty]

/-- The reader takes a number behind its sign, up to a byte that does not carry it on. -/
theorem Magnitude.read {negative : Bool} {numeral : Numeral} {bytes rest : List UInt8}
    (spelled : Magnitude negative numeral bytes) (stops : Stops rest) :
    readMagnitude negative (bytes ++ rest) = some (numeral, rest) := by
  cases spelled with
  | @spelled whole digits short fraction point behind exponent scale scaled =>
    have apart := scaled.ends fun byte here => ⟨(stops byte here).1, (stops byte here).2.1⟩
    obtain ⟨taken, left⟩ :=
      digits.span (behind.ends fun byte here => (apart byte here).1)
    have proper : ¬ ((whole = [] || (whole.head? = some 0x30 && 1 < whole.length)) = true) := by
      simp only [Bool.or_eq_true, Bool.and_eq_true, decide_eq_true_eq, digits.nonempty, false_or]
      rintro ⟨zero, long⟩
      have alone := short zero
      omega
    rw [List.append_assoc, List.append_assoc]
    unfold readMagnitude
    simp only [taken, left]
    rw [if_neg proper, behind.read apart]
    simp [scaled.read stops]

/-- The reader takes the parts of a string up to its closing quote. -/
theorem Pieces.read {pieces : List Piece} {bytes : List UInt8} (spelled : Pieces pieces bytes)
    (rest : List UInt8) : readPieces (bytes ++ 0x22 :: rest) = some (pieces, rest) := by
  induction spelled with
  | done => rfl
  | byte unquoted unescaped printable behind ih =>
    rw [List.cons_append, readPieces]
    · simp [unescaped, printable, ih]
    · exact unquoted
    · rintro a b c d more rfl
      exact absurd rfl unescaped
    · rintro letter more rfl
      exact absurd rfl unescaped
  | @short letter value known pieces bytes behind ih =>
    have other : letter ≠ 0x75 := by
      rintro rfl
      cases known
    rw [List.cons_append, List.cons_append, readPieces]
    · simp [known, ih]
    · rintro a b c d more rfl
      exact absurd rfl other
  | unit hex behind ih =>
    simp only [List.cons_append]
    rw [readPieces]
    simp [hex, ih]

/-- The reader takes a string behind its opening quote. -/
theorem Literal.read {text : Option String} {bytes : List UInt8} (spelled : Literal text bytes)
    (rest : List UInt8) :
    ∃ inner, bytes = 0x22 :: inner ∧ readString (inner ++ rest) = some (text, rest) := by
  cases spelled with
  | quoted spelled =>
    refine ⟨_, rfl, ?_⟩
    rw [readString, List.append_assoc, List.singleton_append, spelled.read]
    rfl

theorem not_blank_of_isDigit {byte : UInt8} (digit : isDigit byte = true) :
    isBlank byte = false ∧ byte ≠ 0x5d := by
  constructor
  · rw [← Bool.not_eq_true]
    intro white
    simp only [isBlank, Bool.or_eq_true, decide_eq_true_eq] at white
    rcases white with ((rfl | rfl) | rfl) | rfl <;> cases digit
  · rintro rfl
    cases digit

/-- A number behind its sign begins with a digit. -/
theorem Magnitude.head {negative : Bool} {numeral : Numeral} {bytes : List UInt8}
    (spelled : Magnitude negative numeral bytes) :
    ∃ first more, bytes = first :: more ∧ isDigit first = true := by
  cases spelled with
  | @spelled whole digits short fraction point behind exponent scale scaled =>
    cases whole with
    | nil => exact absurd rfl digits.nonempty
    | cons first more => exact ⟨first, _, rfl, digits.digit first List.mem_cons_self⟩

/-- A value begins with a byte that is neither blank nor a closing bracket. -/
theorem Value.head {value : Json} {bytes : List UInt8} (spelled : Value value bytes) :
    ∃ first more, bytes = first :: more ∧ isBlank first = false ∧ first ≠ 0x5d := by
  cases spelled with
  | positive spelled =>
    obtain ⟨first, more, begins, digit⟩ := spelled.head
    exact ⟨first, more, begins, not_blank_of_isDigit digit⟩
  | string spelled =>
    obtain ⟨inner, begins, -⟩ := spelled.read []
    exact ⟨0x22, inner, begins, rfl, by decide⟩
  | _ => exact ⟨_, _, rfl, rfl, by decide⟩

/-- The reader takes a value that begins with a digit for a number. -/
theorem readValue_of_isDigit {first : UInt8} (digit : isDigit first = true) (fuel : Nat)
    (rest : List UInt8) :
    readValue (fuel + 1) (first :: rest) =
      (readMagnitude false (first :: rest)).map fun (numeral, rest) => (.number numeral, rest) := by
  have other : ∀ {mark : UInt8}, isDigit mark = false → first ≠ mark := by
    rintro mark none rfl
    rw [digit] at none
    cases none
  rw [readValue]
  all_goals
    intro more same
    exact absurd (List.cons.inj same).1 (other rfl)

theorem skipBlanks_skipBlanks (bytes : List UInt8) :
    skipBlanks (skipBlanks bytes) = skipBlanks bytes :=
  List.dropWhile_idempotent _ _

/-- Blanks in front of items are passed over. -/
theorem readItems_skipBlanks (fuel : Nat) (bytes : List UInt8) :
    readItems fuel (skipBlanks bytes) = readItems fuel bytes := by
  cases fuel with
  | zero => rfl
  | succ fuel => rw [readItems, readItems, skipBlanks_skipBlanks]

/-- Blanks in front of members are passed over. -/
theorem readMembers_skipBlanks (fuel : Nat) (bytes : List UInt8) :
    readMembers fuel (skipBlanks bytes) = readMembers fuel bytes := by
  cases fuel with
  | zero => rfl
  | succ fuel => rw [readMembers, readMembers, skipBlanks_skipBlanks]

/-- Items that do not begin with the closing bracket are read as an array. -/
theorem readValue_array {fuel : Nat} {bytes after : List UInt8} {items : List Json}
    (opens : ∀ more, skipBlanks bytes ≠ 0x5d :: more)
    (read : readItems fuel bytes = some (items, after)) :
    readValue (fuel + 1) (0x5b :: bytes) = some (.array items, after) := by
  rw [readValue]
  split
  · rename_i more closes
    exact absurd closes (opens more)
  · rw [readItems_skipBlanks, read]
    rfl

/-- Members that do not begin with the closing brace are read as an object. -/
theorem readValue_object {fuel : Nat} {bytes after : List UInt8}
    {members : List (Option String × Json)} (opens : ∀ more, skipBlanks bytes ≠ 0x7d :: more)
    (read : readMembers fuel bytes = some (members, after)) :
    readValue (fuel + 1) (0x7b :: bytes) = some (.object members, after) := by
  rw [readValue]
  split
  · rename_i more closes
    exact absurd closes (opens more)
  · rw [readMembers_skipBlanks, read]
    rfl

/-- Behind the blanks in front, a padded value begins as the value does. -/
theorem Padded.skip {value : Json} {bytes : List UInt8} (spelled : Padded value bytes)
    (rest : List UInt8) :
    ∃ first more, skipBlanks (bytes ++ rest) = first :: more ∧ first ≠ 0x5d := by
  cases spelled with
  | between left right spelled =>
    obtain ⟨first, more, rfl, solid, opens⟩ := spelled.head
    rw [List.append_assoc, left.skip]
    exact ⟨first, _, skipBlanks_of_not_blank solid _, opens⟩

theorem Items.opens {items : List Json} {bytes : List UInt8} (spelled : Items items bytes)
    (rest : List UInt8) : ∀ more, skipBlanks (bytes ++ rest) ≠ 0x5d :: more := by
  intro more closes
  cases spelled with
  | last item =>
    obtain ⟨first, behind, begins, opens⟩ := item.skip rest
    rw [begins] at closes
    exact opens (List.cons.inj closes).1
  | more item later =>
    rw [List.append_assoc] at closes
    obtain ⟨first, behind, begins, opens⟩ := item.skip _
    rw [begins] at closes
    exact opens (List.cons.inj closes).1

/-- Behind the blanks in front, a member begins with the quote of its name. -/
theorem Member.skip {member : Option String × Json} {bytes : List UInt8}
    (spelled : Member member bytes) (rest : List UInt8) :
    ∃ more, skipBlanks (bytes ++ rest) = 0x22 :: more := by
  cases spelled with
  | pair left named inner item =>
    obtain ⟨name, rfl, -⟩ := named.read []
    rw [List.append_assoc, left.skip]
    exact ⟨_, skipBlanks_of_not_blank rfl _⟩

theorem Members.opens {members : List (Option String × Json)} {bytes : List UInt8}
    (spelled : Members members bytes) (rest : List UInt8) :
    ∀ more, skipBlanks (bytes ++ rest) ≠ 0x7d :: more := by
  intro more closes
  cases spelled with
  | last member =>
    obtain ⟨behind, begins⟩ := member.skip rest
    rw [begins] at closes
    cases closes
  | more member later =>
    rw [List.append_assoc] at closes
    obtain ⟨behind, begins⟩ := member.skip _
    rw [begins] at closes
    cases closes

mutual

/-- The reader takes a value, up to bytes that do not carry it on. -/
theorem Value.read {value : Json} {bytes : List UInt8} (spelled : Value value bytes) {fuel : Nat}
    (enough : 2 * bytes.length ≤ fuel) {rest : List UInt8} (stops : Stops rest) :
    readValue fuel (bytes ++ rest) = some (value, rest) := by
  obtain ⟨first, more, begins, -⟩ := spelled.head
  obtain ⟨fuel, rfl⟩ : ∃ less, fuel = less + 1 :=
    ⟨fuel - 1, by rw [begins, List.length_cons] at enough; omega⟩
  cases spelled with
  | null => rfl
  | yes => rfl
  | no => rfl
  | positive spelled =>
    obtain ⟨first, more, rfl, digit⟩ := spelled.head
    rw [List.cons_append, readValue_of_isDigit digit, ← List.cons_append, spelled.read stops]
    rfl
  | negative spelled =>
    rw [List.cons_append, readValue, spelled.read stops]
    rfl
  | string spelled =>
    obtain ⟨inner, rfl, read⟩ := spelled.read rest
    rw [List.cons_append, readValue, read]
    rfl
  | noItems blank =>
    rw [List.cons_append, List.append_assoc, readValue, blank.skip, List.singleton_append,
      skipBlanks_of_not_blank rfl]
    rfl
  | @array items inside spelled =>
    rw [List.length_cons, List.length_append, List.length_singleton] at enough
    rw [List.cons_append, List.append_assoc, List.singleton_append]
    exact readValue_array (spelled.opens _) (Items.read spelled (by omega) rest)
  | noMembers blank =>
    rw [List.cons_append, List.append_assoc, readValue, blank.skip, List.singleton_append,
      skipBlanks_of_not_blank rfl]
    rfl
  | @object members inside spelled =>
    rw [List.length_cons, List.length_append, List.length_singleton] at enough
    rw [List.cons_append, List.append_assoc, List.singleton_append]
    exact readValue_object (spelled.opens _) (Members.read spelled (by omega) rest)
termination_by (fuel, 0)

/-- The reader takes a value with blanks around it, up to a mark that does not carry it on. -/
theorem Padded.read {value : Json} {bytes : List UInt8} (spelled : Padded value bytes) {fuel : Nat}
    (enough : 2 * bytes.length ≤ fuel) {mark : UInt8} {rest : List UInt8}
    (stops : Stops (mark :: rest)) (solid : isBlank mark = false) :
    ∃ left, readValue fuel (skipBlanks (bytes ++ mark :: rest)) = some (value, left) ∧
      skipBlanks left = mark :: rest := by
  cases spelled with
  | @between before inside after left right value spelled =>
    obtain ⟨first, more, begins, white, -⟩ := spelled.head
    rw [List.length_append, List.length_append] at enough
    have trimmed : skipBlanks (before ++ (inside ++ after) ++ mark :: rest) =
        inside ++ (after ++ mark :: rest) := by
      rw [List.append_assoc, left.skip, List.append_assoc, begins, List.cons_append]
      exact skipBlanks_of_not_blank white _
    refine ⟨after ++ mark :: rest, ?_, ?_⟩
    · rw [trimmed]
      exact Value.read spelled (by omega) (right.stops stops)
    · rw [right.skip, skipBlanks_of_not_blank solid]
termination_by (fuel, 1)

/-- The reader takes items up to the closing bracket. -/
theorem Items.read {items : List Json} {bytes : List UInt8} (spelled : Items items bytes)
    {fuel : Nat} (enough : 2 * bytes.length + 1 ≤ fuel) (rest : List UInt8) :
    readItems fuel (bytes ++ 0x5d :: rest) = some (items, rest) := by
  obtain ⟨fuel, rfl⟩ : ∃ less, fuel = less + 1 := ⟨fuel - 1, by omega⟩
  cases spelled with
  | last item =>
    have room : 2 * bytes.length ≤ fuel := by omega
    obtain ⟨left, read, closes⟩ :=
      Padded.read item room (stops_cons (by decide) : Stops (0x5d :: rest)) rfl
    simp [readItems, read, closes]
  | @more item bytes spelled items behind later =>
    rw [List.length_append, List.length_cons] at enough
    have room : 2 * bytes.length ≤ fuel := by omega
    obtain ⟨left, read, goesOn⟩ :=
      Padded.read spelled room
        (stops_cons (by decide) : Stops (0x2c :: (behind ++ 0x5d :: rest))) rfl
    have others : readItems fuel (behind ++ 0x5d :: rest) = some (items, rest) :=
      Items.read later (by omega) rest
    rw [List.append_assoc, List.cons_append]
    simp [readItems, read, goesOn, others]
termination_by (fuel, 2)

/-- The reader takes the name of a member, the colon and the value, one after another. -/
theorem Member.read {member : Option String × Json} {bytes : List UInt8}
    (spelled : Member member bytes) {fuel : Nat} (enough : 2 * bytes.length ≤ fuel) {mark : UInt8}
    {rest : List UInt8} (stops : Stops (mark :: rest)) (solid : isBlank mark = false) :
    ∃ quoted unnamed content left,
      skipBlanks (bytes ++ mark :: rest) = 0x22 :: quoted ∧
      readString quoted = some (member.1, unnamed) ∧
      skipBlanks unnamed = 0x3a :: content ∧
      readValue fuel (skipBlanks content) = some (member.2, left) ∧
      skipBlanks left = mark :: rest := by
  cases spelled with
  | @pair before head between bytes left name named inner value item =>
    obtain ⟨inside, rfl, read⟩ := named.read (between ++ 0x3a :: (bytes ++ mark :: rest))
    simp only [List.length_append, List.length_cons] at enough
    have room : 2 * bytes.length ≤ fuel := by omega
    obtain ⟨behind, taken, ended⟩ := Padded.read item room stops solid
    refine ⟨_, _, bytes ++ mark :: rest, behind, ?_, read, ?_, taken, ended⟩
    · rw [List.append_assoc, left.skip]
      simp only [List.append_assoc, List.cons_append]
      exact skipBlanks_of_not_blank rfl _
    · rw [inner.skip, skipBlanks_of_not_blank rfl]
termination_by (fuel, 2)

/-- The reader takes members up to the closing brace. -/
theorem Members.read {members : List (Option String × Json)} {bytes : List UInt8}
    (spelled : Members members bytes) {fuel : Nat} (enough : 2 * bytes.length + 1 ≤ fuel)
    (rest : List UInt8) : readMembers fuel (bytes ++ 0x7d :: rest) = some (members, rest) := by
  obtain ⟨fuel, rfl⟩ : ∃ less, fuel = less + 1 := ⟨fuel - 1, by omega⟩
  cases spelled with
  | last member =>
    have room : 2 * bytes.length ≤ fuel := by omega
    obtain ⟨quoted, unnamed, content, left, opens, named, colon, read, closes⟩ :=
      Member.read member room (stops_cons (by decide) : Stops (0x7d :: rest)) rfl
    simp [readMembers, opens, named, colon, read, closes]
  | @more member bytes spelled members behind later =>
    rw [List.length_append, List.length_cons] at enough
    have room : 2 * bytes.length ≤ fuel := by omega
    obtain ⟨quoted, unnamed, content, left, opens, named, colon, read, goesOn⟩ :=
      Member.read spelled room
        (stops_cons (by decide) : Stops (0x2c :: (behind ++ 0x7d :: rest))) rfl
    have others : readMembers fuel (behind ++ 0x7d :: rest) = some (members, rest) :=
      Members.read later (by omega) rest
    rw [List.append_assoc, List.cons_append]
    simp [readMembers, opens, named, colon, read, goesOn, others]
termination_by (fuel, 3)

end

end Grammar

/-- Every spelling of a value is read as the value, with blanks around it or not. -/
theorem read?_of_spelled {value : Json} {bytes : List UInt8}
    (spelled : Grammar.Padded value bytes) : read? bytes = some value := by
  cases spelled with
  | @between before inside after left right value spelled =>
    obtain ⟨first, more, begins, white, -⟩ := spelled.head
    have trimmed : skipBlanks (before ++ (inside ++ after)) = inside ++ after := by
      rw [left.skip, begins, List.cons_append]
      exact Grammar.skipBlanks_of_not_blank white _
    have ends : Grammar.Stops after := by
      have nothing : Grammar.Stops [] := by
        intro byte here
        cases here
      have blanks := right.stops nothing
      rwa [List.append_nil] at blanks
    have gone : skipBlanks after = [] := by
      have skipped := right.skip []
      rwa [List.append_nil] at skipped
    have room : 2 * inside.length ≤ 2 * (before ++ (inside ++ after)).length + 1 := by
      rw [List.length_append, List.length_append]
      omega
    rw [read?, trimmed, spelled.read room ends]
    simp [gone]

end Mailroom.Json
