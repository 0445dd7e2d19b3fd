import AtmosChem.Decimal.Digits

/-!
# The shortest decimal of a double

A double stands for all real numbers that round to it, an interval around its exact value.  Among
the decimals in that interval the **shortest** ones have the fewest digits, and of these the one
nearest to the exact value is written.  Two may be equally near; which of them is taken is a matter
of the place where the number is written.

All is exact arithmetic on natural numbers.  The value and the two ends of the interval are
numerators over one denominator (`Span`); a grid of decimals with a given number of digits has at
most two points next to the value, and it suffices to try these.

* `Span.ofFields`: the interval of a positive finite double.
* `Span.gridPoint?`: the point of a grid that lies in the interval and is nearest to the value.
* `shortest`: the first grid that has one, for 1, 2, … 17 digits.
-/

namespace AtmosChem.Decimal

/-- A positive value between two bounds, all over one denominator. -/
structure Span where
  value : Nat
  low : Nat
  high : Nat
  denominator : Nat
  /-- Whether the bounds belong to the interval. -/
  closed : Bool
deriving DecidableEq, Repr

/-- Which of two numbers that are equally near is taken. -/
inductive Tie
  | toEven
  | up
deriving DecidableEq, Repr

/-- The choice between a number and the next one. -/
def Tie.choose (below : Nat) : Tie → Nat
  | .toEven => if below % 2 = 0 then below else below + 1
  | .up => below + 1

namespace Span

/-- The interval of `mantissa * 2 ^ exponent`.  It reaches half way to the neighbours; the lower one
is nearer if `narrow` holds.  A tie rounds to an even mantissa. -/
def ofBinary (mantissa : Nat) (exponent : Int) (narrow : Bool) : Span :=
  let factor := twoTo (exponent - 2).toNat
  { value := 4 * mantissa * factor
    low := (4 * mantissa - (if narrow then 1 else 2)) * factor
    high := (4 * mantissa + 2) * factor
    denominator := twoTo (2 - exponent).toNat
    closed := mantissa % 2 == 0 }

/-- The interval of the double with the given exponent field and fraction field. -/
def ofFields (field fraction : Nat) : Span :=
  if field = 0 then ofBinary fraction (-1074) false
  else ofBinary (twoTo 52 + fraction) (field - 1075) (fraction == 0 && field != 1)

/-- Whether `point / scale` lies in the interval, `scale` being over the denominator. -/
def contains (s : Span) (point : Nat) : Bool :=
  if s.closed then decide (s.low ≤ point) && decide (point ≤ s.high)
  else decide (s.low < point) && decide (point < s.high)

/-- The decimal exponent: the value lies between `10 ^ k` and `10 ^ (k + 1)`. -/
def magnitude (s : Span) : Int :=
  if s.denominator ≤ s.value then ((digitsOf (s.value / s.denominator)).length : Int) - 1
  else
    let k := (digitsOf (s.denominator / s.value)).length
    if s.denominator = s.value * tenTo (k - 1) then 1 - (k : Int) else -(k : Int)

/-- The multiple of `10 ^ exponent` nearest to the value among those in the interval. -/
def gridPoint? (s : Span) (tie : Tie) (exponent : Int) : Option Nat :=
  let up := tenTo (-exponent).toNat
  let step := s.denominator * tenTo exponent.toNat
  let t : Span :=
    { s with value := s.value * up, low := s.low * up, high := s.high * up }
  let below := t.value / step
  let above := below + 1
  match t.contains (below * step), t.contains (above * step) with
  | true, true =>
    let down := t.value - below * step
    let rise := above * step - t.value
    if down < rise then some below
    else if rise < down then some above
    else some (tie.choose below)
  | true, false => some below
  | false, true => some above
  | false, false => none

end Span

/-- A decimal number `coefficient * 10 ^ exponent`. -/
structure Scaled where
  coefficient : Nat
  exponent : Int
deriving DecidableEq, Repr

/-- The same number without zeros at the end of its coefficient. -/
def Scaled.reduce : Nat → Scaled → Scaled
  | 0, d => d
  | fuel + 1, d =>
    if d.coefficient ≠ 0 ∧ d.coefficient % 10 = 0 then
      Scaled.reduce fuel ⟨d.coefficient / 10, d.exponent + 1⟩
    else d

/-- The shortest decimal in an interval, nearest to its value.  Grids of up to 17 digits are tried,
which is enough for every double. -/
def Span.shortest (s : Span) (tie : Tie) : Scaled :=
  let found := (List.range 17).findSome? fun (n : Nat) =>
    (s.gridPoint? tie (s.magnitude - n)).map fun c => (⟨c, s.magnitude - n⟩ : Scaled)
  (found.getD ⟨0, 0⟩).reduce 17

/-- What a double stands for: no number, an infinity, or a signed decimal. -/
inductive Value
  | notANumber
  | infinite (negative : Bool)
  | finite (negative : Bool) (decimal : Scaled)
deriving DecidableEq, Repr

/-- The value of the double with the given sign, exponent field and fraction field. -/
def Value.ofFields (tie : Tie) (negative : Bool) (field fraction : Nat) : Value :=
  if field = 2047 then if fraction = 0 then .infinite negative else .notANumber
  else if field = 0 ∧ fraction = 0 then .finite negative ⟨0, 0⟩
  else .finite negative ((Span.ofFields field fraction).shortest tie)

/-- The value of a double, in its shortest decimal. -/
def Value.ofFloat (tie : Tie) (x : Float) : Value :=
  let bits := x.toBits.toNat
  .ofFields tie (bits / twoTo 63 == 1) (bits / twoTo 52 % twoTo 11) (bits % twoTo 52)

/-- The least positive double has one digit, and it is the nearest of those that stand for it. -/
example : Value.ofFields .toEven false 0 1 = .finite false ⟨5, -324⟩ := by decide +kernel

/-- One tenth. -/
example : Value.ofFields .toEven false 0x3fb 0x999999999999a = .finite false ⟨1, -1⟩ := by
  decide +kernel

/-- The greatest double needs 17 digits. -/
example : Value.ofFields .toEven true 2046 (twoTo 52 - 1) =
    .finite true ⟨17976931348623157, 292⟩ := by decide +kernel

/-- The double 1125899906842624.25 lies half way between two tenths that stand for it. -/
example : Value.ofFields .toEven false 1073 1 = .finite false ⟨11258999068426242, -1⟩ ∧
    Value.ofFields .up false 1073 1 = .finite false ⟨11258999068426243, -1⟩ := by decide +kernel

end AtmosChem.Decimal
