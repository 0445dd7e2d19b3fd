import AtmosChem.Decimal.Numeral

/-!
# Reading numbers

A decimal text stands for the double nearest to it, a tie going to the even one.  Two grammars are
read:

* `readFloat?`: a number by itself, as it stands in a mechanism or on a command line.  The sign may
  be a plus, zeros may lead, one side of the point may be missing, and infinity and NaN have names.
* `Numeral.scaled?`: a number inside a document, by scaling.  The digits that fit into 64 bits are
  taken as they are, and one multiplication or division by a power of ten gives the value.  This is
  exact for up to 15 digits and exponents up to 22, and may be a neighbour of the nearest double
  beyond.  Numbers too large are refused, numbers too small are zero.
-/

namespace AtmosChem.Decimal

/-- The double above all others. -/
def infinity : Float := 1.0 / 0.0

/-- The double that is no number. -/
def notANumber : Float := 0.0 / 0.0

/-! ### The nearest double -/

/-- The double nearest to `coefficient * 10 ^ exponent`.  A number of more than 400 digits is above
all doubles, one that begins after 400 zeros is below half the least of them. -/
def nearest (coefficient : Nat) (exponent : Int) : Float :=
  if coefficient = 0 then 0.0
  else
    let size := (digitsOf coefficient).length + exponent
    if size > 400 then infinity
    else if size < -400 then 0.0
    else Float.ofScientific coefficient (decide (exponent < 0)) exponent.natAbs

/-- The power `10 ^ k` as a double. -/
def powerOfTen (k : Nat) : Float := Float.ofScientific 1 false k

/-! ### Numbers by themselves -/

/-- The exponent after its mark: an optional sign and digits up to the end. -/
def readExponentPart? (s : List Char) : Option Int :=
  let (negative, digits) := match s with
    | '+' :: r => (false, r)
    | '-' :: r => (true, r)
    | r => (false, r)
  match takeDigits digits with
  | (d :: ds, []) => some (if negative then -(natOf (d :: ds) : Int) else natOf (d :: ds))
  | _ => none

/-- Digits with an optional point and an optional exponent.  There is at least one digit before the
exponent. -/
def readUnsigned? (s : List Char) : Option Float :=
  let (whole, afterWhole) := takeDigits s
  let (fraction, afterFraction) := match afterWhole with
    | '.' :: r => takeDigits r
    | r => ([], r)
  if whole = [] ∧ fraction = [] then none
  else
    let coefficient := natOf (whole ++ fraction)
    match afterFraction with
    | [] => some (nearest coefficient (-(fraction.length : Int)))
    | c :: r =>
      if c = 'e' ∨ c = 'E' then
        (readExponentPart? r).map fun e => nearest coefficient (e - fraction.length)
      else none

/-- The names of the doubles that have no digits, in lower case. -/
def named? (s : List Char) : Option Float :=
  if s = ['n', 'a', 'n'] then some notANumber
  else if s = ['i', 'n', 'f'] ∨ s = ['i', 'n', 'f', 'i', 'n', 'i', 't', 'y'] then some infinity
  else none

/-- A name in any letter case, or digits. -/
def readMagnitude? (s : List Char) : Option Float :=
  (named? (s.map Char.toLower)).or (readUnsigned? s)

/-- The double that a text stands for, if the whole text is a number. -/
def readFloat? : List Char → Option Float
  | '-' :: s => (readMagnitude? s).map fun x => -x
  | '+' :: s => readMagnitude? s
  | s => readMagnitude? s

/-- One side of the point may be missing, but not both. -/
example : (readFloat? ['.', '5']).isSome ∧ (readFloat? ['5', '.']).isSome ∧
    (readFloat? ['.']).isNone ∧ (readFloat? []).isNone ∧ (readFloat? ['-']).isNone := by
  decide +kernel

/-- Nothing may follow, and a blank is nothing that may lead. -/
example : (readFloat? ['1', ' ']).isNone ∧ (readFloat? [' ', '1']).isNone ∧
    (readFloat? ['1', 'e']).isNone ∧ (readFloat? ['1', 'd', '5']).isNone := by decide +kernel

example : (readFloat? ['-', 'I', 'n', 'F']).isSome ∧ (readFloat? ['i', 'n']).isNone := by
  decide +kernel

/-! ### Numbers in documents -/

/-- The digits taken into a coefficient while it stays below `2 ^ 64`, and the digits left. -/
def takeCoefficient : Nat → List Digit → Nat × List Digit
  | n, [] => (n, [])
  | n, d :: ds =>
    if 10 * n + d.val < twoTo 64 then takeCoefficient (10 * n + d.val) ds else (n, d :: ds)

/-- `x / 10 ^ k`, in steps of at most `10 ^ 308`.  After three full steps nothing is left of a
number below `2 ^ 64`. -/
def scaleDown (x : Float) (k : Nat) : Float :=
  let steps := (k - 1) / 308
  if steps ≥ 3 then 0.0
  else (List.replicate steps (powerOfTen 308)).foldl (· / ·) x / powerOfTen (k - 308 * steps)

/-- `x * 10 ^ k`, if that is finite. -/
def scaleUp? (x : Float) (k : Nat) : Option Float :=
  if k ≤ 308 then
    let y := x * powerOfTen k
    if y.isInf then none else some y
  else if x == 0.0 then some x
  else none

/-- The value of a numeral by scaling its leading digits; `none` if it is too large. -/
def Numeral.scaled? (n : Numeral) : Option Float :=
  let (wholePart, droppedWhole) := takeCoefficient 0 (digitsOf n.whole)
  let (coefficient, droppedFraction) := takeCoefficient wholePart n.fraction
  let exponent : Int := n.exponent.getD 0 + droppedWhole.length
    - (n.fraction.length - droppedFraction.length : Nat)
  let x := Float.ofNat coefficient
  let magnitude? := if 0 ≤ exponent then scaleUp? x exponent.toNat
    else some (scaleDown x exponent.natAbs)
  magnitude?.map fun y => if n.negative then -y else y

end AtmosChem.Decimal
