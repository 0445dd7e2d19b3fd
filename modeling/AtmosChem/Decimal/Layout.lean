import AtmosChem.Decimal.Numeral
import AtmosChem.Decimal.Shortest

/-!
# Writing numbers

A number is written with the digits of its shortest decimal.  A **layout** says where the point
goes: which numbers are written positionally, and whether a whole number ends in `.0`.  It also says
which decimal is taken if two are equally short and near.

* `Layout.document`: numbers in documents.  Positional from `1e-5` up to below `1e16`, always with
  a point there; with an exponent outside.  Ties go to even.
* `Layout.plain`: numbers in messages.  Positional always, a whole number without a point.  Ties go
  up, away from zero.
-/

namespace AtmosChem.Decimal

/-- How numbers are laid out. -/
structure Layout where
  /-- The decimal exponents of the numbers that are written positionally. -/
  positional : Int → Bool
  /-- Whether a whole number that is written positionally ends in `.0`. -/
  pointZero : Bool
  /-- Which of two decimals that are equally near is taken. -/
  tie : Tie

/-- The layout of numbers in documents. -/
def Layout.document : Layout := ⟨fun e => decide (-5 ≤ e) && decide (e < 16), true, .toEven⟩

/-- The layout of numbers in messages. -/
def Layout.plain : Layout := ⟨fun _ => true, false, .up⟩

/-- A number below `10 ^ width` with leading zeros up to `width` digits. -/
def paddedDigits (width n : Nat) : List Digit :=
  let ds := if n = 0 then [] else digitsOf n
  List.replicate (width - ds.length) 0 ++ ds

/-- The numeral of a decimal: its digits with the point where the layout puts it. -/
def Layout.numeral (l : Layout) (negative : Bool) (d : Scaled) : Numeral :=
  let ds := digitsOf d.coefficient
  let magnitude : Int := d.exponent + ds.length - 1
  if d.coefficient = 0 ∨ l.positional magnitude = true then
    if 0 ≤ d.exponent then
      ⟨negative, d.coefficient * tenTo d.exponent.toNat, if l.pointZero then [0] else [], none⟩
    else
      let places := d.exponent.natAbs
      let unit := tenTo places
      ⟨negative, d.coefficient / unit, paddedDigits places (d.coefficient % unit), none⟩
  else
    match ds with
    | [] => ⟨negative, 0, [], none⟩
    | d :: ds => ⟨negative, d.val, ds, some magnitude⟩

example : (Layout.document.numeral false ⟨15, -8⟩).text = ['1', '.', '5', 'e', '-', '7'] := by
  decide +kernel

example : (Layout.document.numeral false ⟨3, 2⟩).text = ['3', '0', '0', '.', '0'] ∧
    (Layout.document.numeral true ⟨0, 0⟩).text = ['-', '0', '.', '0'] ∧
    (Layout.document.numeral false ⟨1, 16⟩).text = ['1', 'e', '+', '1', '6'] ∧
    (Layout.document.numeral false ⟨1, -5⟩).text = ['0', '.', '0', '0', '0', '0', '1'] := by
  decide +kernel

example : (Layout.plain.numeral true ⟨15, 3⟩).text = ['-', '1', '5', '0', '0', '0'] ∧
    (Layout.plain.numeral true ⟨25, -1⟩).text = ['-', '2', '.', '5'] := by decide +kernel

/-- The text of a double in a message. -/
def plainText (x : Float) : List Char :=
  match Value.ofFloat Layout.plain.tie x with
  | .notANumber => ['N', 'a', 'N']
  | .infinite negative => (if negative then ['-'] else []) ++ ['i', 'n', 'f']
  | .finite negative d => (Layout.plain.numeral negative d).text

end AtmosChem.Decimal
