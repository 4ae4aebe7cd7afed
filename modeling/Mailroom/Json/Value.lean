import Mailroom.Decimal.Nearest

/-!
# JSON values

A value keeps all that its text says: the members of an object in order, repeated names included,
and the digits of a number. A string literal can be well formed and yet name no text, when it
escapes half of a surrogate pair or holds bytes that are not UTF-8; such a literal is kept as
`none`, because a reader that ignores the value must still accept it.
-/

namespace Mailroom

/-- A number as it is written. -/
structure Numeral where
  /-- Whether a minus stands in front. -/
  negative : Bool
  /-- The value of the digits before the point. -/
  whole : Nat
  /-- The digits behind the point, none if there is no point. -/
  fraction : List Nat
  /-- The exponent, if there is one. -/
  exponent : Option Int
  deriving DecidableEq, Repr

namespace Numeral

/-- An integer as a numeral. -/
def ofInt (value : Int) : Numeral := ⟨decide (value < 0), value.natAbs, [], none⟩

/-- The integer that a numeral writes: it has neither point nor exponent and is not minus zero. -/
def toInt? (numeral : Numeral) : Option Int :=
  if numeral.fraction = [] ∧ numeral.exponent = none then
    if numeral.negative then
      if numeral.whole = 0 then none else some (-(numeral.whole : Int))
    else some numeral.whole
  else none

/-- The integer of a numeral, if it lies within bounds. -/
def toIntWithin? (least most : Int) (numeral : Numeral) : Option Int :=
  numeral.toInt?.filter fun value => decide (least ≤ value ∧ value ≤ most)

/-- The double that a numeral is read as. -/
def toFloat? (numeral : Numeral) : Option Float :=
  let magnitude :=
    if numeral.fraction = [] ∧ numeral.exponent = none ∧ numeral.whole < UInt64.size then
      some (Decimal.ofNat numeral.whole)
    else
      let digits := (Nat.toDigits 10 numeral.whole).map fun c => c.toNat - '0'.toNat
      Decimal.read? digits numeral.fraction numeral.exponent
  magnitude.map fun x => if numeral.negative then -x else x

/-- Every integer is the integer of its numeral. -/
@[simp] theorem toInt?_ofInt (value : Int) : (ofInt value).toInt? = some value := by
  unfold ofInt toInt?
  by_cases negative : value < 0
  · have nonzero : value.natAbs ≠ 0 := by omega
    have back : -(value.natAbs : Int) = value := by omega
    rw [if_pos ⟨rfl, rfl⟩, if_pos (decide_eq_true negative), if_neg nonzero, back]
  · have back : (value.natAbs : Int) = value := by omega
    rw [if_pos ⟨rfl, rfl⟩, if_neg (by simpa using negative), back]

/-- An integer within bounds is read from its numeral. -/
theorem toIntWithin?_ofInt {least most value : Int} (h : least ≤ value ∧ value ≤ most) :
    (ofInt value).toIntWithin? least most = some value := by
  simp [toIntWithin?, Option.filter, h]

end Numeral

/-- A JSON value. -/
inductive Json where
  | null
  | bool (value : Bool)
  | number (value : Numeral)
  /-- A string, or a literal that names no text. -/
  | string (text : Option String)
  | array (items : List Json)
  /-- An object; a name that is no text is `none`. -/
  | object (members : List (Option String × Json))

instance : Inhabited Json := ⟨.null⟩

namespace Json

/-- A text. -/
def text (value : String) : Json := .string (some value)

/-- An integer. -/
def int (value : Int) : Json := .number (.ofInt value)

/-- An object with distinct, proper names. -/
def record (members : List (String × Json)) : Json :=
  .object (members.map fun (name, value) => (some name, value))

/-- A value or null. -/
def option {α : Type} (encode : α → Json) : Option α → Json
  | none => .null
  | some value => encode value

/-- An array of encoded values. -/
def list {α : Type} (encode : α → Json) (values : List α) : Json := .array (values.map encode)

end Json

end Mailroom
