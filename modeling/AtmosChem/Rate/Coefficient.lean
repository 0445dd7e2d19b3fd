import AtmosChem.Decimal.Float
import AtmosChem.Text.Cut

/-!
# Coefficients

Mechanisms spell numbers in the old way: `1.0D-12` for `1.0E-12`, `2.0_dp` for `2.0`, and spaces
anywhere.  `respell` takes such a spelling to the common one.  A list of arguments may hold
placeholders such as `TEMP` among the numbers; they are left out.

* `respell`: the common spelling.
* `coefficients`: the numbers of a comma separated list.
* `callArguments`: the text between the parentheses of the first call.
* `callCoefficients`: the numbers in it.
-/

namespace AtmosChem

open Text Decimal

/-- The text without the kind suffix `_dp`, wherever it stands. -/
def eraseKind : List Char → List Char
  | '_' :: 'd' :: 'p' :: s => eraseKind s
  | c :: s => c :: eraseKind s
  | [] => []

/-- The exponent letter `D` becomes `E`. -/
def respellChar (c : Char) : Char := if c = 'D' then 'E' else c

/-- The common spelling of a number: no spaces, no kind suffix, `E` for `D`. -/
def respell (s : List Char) : List Char :=
  (eraseKind (s.filter fun c => c ≠ ' ')).map respellChar

example : respell ['1', ' ', 'D', '-', '2', '_', ' ', 'd', 'p'] = ['1', 'E', '-', '2'] := by decide

/-- Taking out a suffix may leave one behind. -/
example : respell ['_', 'd', '_', 'd', 'p', 'p'] = ['_', 'd', 'p'] := by decide

/-- Whether a text is a number, blanks around it aside. -/
def isNumber (s : List Char) : Bool := (readFloat? (trim s)).isSome

/-- The number that a spelling stands for. -/
def coefficient? (s : List Char) : Option Float := readFloat? (respell s)

/-- The numbers of a comma separated list, in order. -/
def coefficients (s : List Char) : List Float := (s.splitOn ',').filterMap coefficient?

/-- A text that begins with a parenthesis, without it and without the one at its end. -/
def unwrapOnce : List Char → List Char
  | '(' :: s => if s.getLast? = some ')' then s.dropLast else s
  | s => s

/-- The text between the first opening parenthesis and the next closing one.  A parenthesis around
the whole text is taken off first. -/
def callArguments (s : List Char) : Option (List Char) :=
  (cutAt '(' (unwrapOnce (trim s))).map fun p => before ')' p.2

/-- The numbers among the arguments of the first call. -/
def callCoefficients (s : List Char) : List Float := (callArguments s).elim [] coefficients

example : callArguments ['f', '(', '1', ',', 'T', ')', ' ', 'x'] = some ['1', ',', 'T'] := by decide

example : callArguments ['(', 'f', '(', '1', ')', ')'] = some ['1'] ∧
    callArguments ['1'] = none := by decide

end AtmosChem
