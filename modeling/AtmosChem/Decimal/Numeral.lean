import AtmosChem.Decimal.Digits

/-!
# Numerals

A **numeral** is a decimal number as it stands on paper: a sign, the digits before the point, the
digits after it, an exponent.  `1.50e-3` and `0.0015` are two numerals of one number.  The parts
before the point have no leading zeros, so each numeral has one text.

* `Numeral.text`: the text.
* `Numeral.read?`: the numeral at the beginning of a text, and the rest.
-/

namespace AtmosChem.Decimal

/-- A decimal number as it is written.  Without digits after the point there is no point. -/
structure Numeral where
  negative : Bool
  whole : Nat
  fraction : List Digit
  exponent : Option Int
deriving DecidableEq, Repr

namespace Numeral

/-- The text of an exponent: mark, sign, digits. -/
def exponentText (e : Int) : List Char :=
  'e' :: (if e < 0 then '-' else '+') :: decimalText e.natAbs

/-- The text of an exponent below zero or above: a minus or a plus stands after the mark. -/
example : exponentText (-12) = ['e', '-', '1', '2'] ∧ exponentText 16 = ['e', '+', '1', '6'] := by
  decide

/-- The text of the digits after the point, with the point. -/
def fractionText : List Digit → List Char
  | [] => []
  | ds => '.' :: ds.map digitChar

/-- The text of a numeral. -/
def text (n : Numeral) : List Char :=
  (if n.negative then ['-'] else []) ++ decimalText n.whole ++ fractionText n.fraction
    ++ n.exponent.elim [] exponentText

/-! ### Reading -/

/-- The digits before the point: a zero alone, or digits that do not begin with a zero. -/
def readWhole? (s : List Char) : Option (Nat × List Char) :=
  match takeDigits s with
  | ([], _) => none
  | (0 :: _, _) => some (0, s.drop 1)
  | (ds, r) => some (natOf ds, r)

/-- The point and the digits after it, which are at least one; or nothing. -/
def readFraction? : List Char → Option (List Digit × List Char)
  | '.' :: s =>
    match takeDigits s with
    | ([], _) => none
    | (ds, r) => some (ds, r)
  | s => some ([], s)

/-- The digits of an exponent, at least one, with the sign in front applied. -/
def readExponentDigits? (negative : Bool) (s : List Char) : Option (Option Int × List Char) :=
  match takeDigits s with
  | ([], _) => none
  | (ds, r) => some (some (if negative then -(natOf ds : Int) else natOf ds), r)

/-- The exponent with its mark; or nothing. -/
def readExponent? : List Char → Option (Option Int × List Char)
  | [] => some (none, [])
  | c :: s =>
    if c = 'e' ∨ c = 'E' then
      match s with
      | '+' :: r => readExponentDigits? false r
      | '-' :: r => readExponentDigits? true r
      | r => readExponentDigits? false r
    else some (none, c :: s)

/-- The numeral at the beginning of a text, and the text after it. -/
def read? (s : List Char) : Option (Numeral × List Char) := do
  let (negative, s) := match s with
    | '-' :: r => (true, r)
    | r => (false, r)
  let (whole, s) ← readWhole? s
  let (fraction, s) ← readFraction? s
  let (exponent, s) ← readExponent? s
  return (⟨negative, whole, fraction, exponent⟩, s)

example : read? ['-', '0', '.', '5', '0', 'E', '3', ','] =
    some (⟨true, 0, [5, 0], some 3⟩, [',']) := by decide

/-- A point needs a digit after it, and so does the mark of an exponent. -/
example : read? ['1', '.'] = none ∧ read? ['1', 'e', '+'] = none ∧ read? ['-'] = none := by decide

/-- Digits after a leading zero are no part of the numeral. -/
example : read? ['0', '1'] = some (⟨false, 0, [], none⟩, ['1']) := by decide

end Numeral

end AtmosChem.Decimal
