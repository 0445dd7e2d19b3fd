import AtmosChem.Equation.Basic

/-!
# Equations of MOZART

MOZART writes blocks of equations under a label in brackets.  An equation has an arrow and may go on
over the lines after it; its coefficients follow a semicolon:

    [RXN1]
      A + B -> C
        + D ; 1.0e-12, 2000

What follows an exclamation mark is a comment.  The equations of a block are named after its label
and counted; equations before the first label are named after their place in the section.

A line is read by a machine that knows the block that is open (`Block`) and the equations so far.

* `SubEquation`: an equation with its texts.
* `Mozart.collect`: the equations of a section.
* `Mozart.translate`: what becomes of them.
-/

namespace AtmosChem.Mozart

open Text

/-! ### Equations as texts -/

/-- An equation before its texts are read.  Without a semicolon there are no coefficients yet. -/
structure SubEquation where
  label : List Char
  reactants : List Char
  products : List Char
  coefficients : Option (List Char)
deriving DecidableEq, Repr

namespace SubEquation

/-- An equation from the texts left and right of its arrow. -/
def start (label left right : List Char) : SubEquation :=
  match cutAt ';' right with
  | some (products, tail) => ⟨label, left, products, some tail⟩
  | none => ⟨label, left, right, none⟩

/-- An equation and the text of the line after it.  The text belongs to the coefficients if they
have begun, else to the products up to a semicolon. -/
def continueWith (e : SubEquation) (line : List Char) : SubEquation :=
  match e.coefficients with
  | some tail => { e with coefficients := some (tail ++ ' ' :: line) }
  | none =>
    match cutAt ';' line with
    | some (products, tail) =>
      { e with products := e.products ++ ' ' :: products, coefficients := some tail }
    | none => { e with products := e.products ++ ' ' :: line }

/-- The equation that the texts make up. -/
def equation (e : SubEquation) : Except Failure Equation := do
  let sides ← Sides.read e.reactants e.products
  return {
    label := String.ofList e.label
    sides
    rate := classifyCoefficients (AtmosChem.coefficients (e.coefficients.getD [])) sides.photon
      sides.stoichiometry.hasProducts
    notices := [] }

end SubEquation

/-! ### Collecting the equations of a section -/

/-- The block that is open: its label, the line that opened it, and how many equations it has. -/
structure Block where
  label : List Char
  openedBy : List Char
  count : Nat
deriving DecidableEq, Repr

/-- A section as far as it has been read; the latest equation stands first. -/
structure State where
  block : Option Block
  equations : List SubEquation
deriving DecidableEq, Repr

namespace State

/-- Nothing has been read. -/
def start : State := ⟨none, []⟩

/-- The label of the next equation, and the block counting it. -/
def nextLabel (q : State) : List Char × Option Block :=
  match q.block with
  | some b =>
    (b.label ++ [' ', '('] ++ Decimal.decimalText (b.count + 1) ++ [')'],
      some { b with count := b.count + 1 })
  | none => ('R' :: Decimal.decimalText (q.equations.length + 1), none)

/-- Whether a line without an arrow goes on with an equation: the open block has one, or there is no
block and there is an equation. -/
def mayContinue (q : State) : Bool :=
  match q.block with
  | some b => b.count != 0
  | none => !q.equations.isEmpty

/-- The failure of a block that ends without an equation. -/
def unfinished? (q : State) : Option Failure :=
  match q.block with
  | some b =>
    if b.count = 0 then some (.missingSeparator .arrow (String.ofList b.openedBy)) else none
  | none => none

/-- The section after the body of a line: an equation, or the continuation of one. -/
def readBody (q : State) (line : List Char) : Except Failure State :=
  match cutAtWord ['-', '>'] line with
  | some (left, right) =>
    let (label, block) := q.nextLabel
    .ok ⟨block, .start label left right :: q.equations⟩
  | none =>
    match q.equations with
    | e :: es =>
      if q.mayContinue then .ok { q with equations := e.continueWith line :: es }
      else .error (.missingSeparator .arrow (String.ofList line))
    | [] => .error (.missingSeparator .arrow (String.ofList line))

/-- The section after a line that begins with a bracket, given without it. -/
def openBlock (q : State) (line rest : List Char) : Except Failure State :=
  match q.unfinished? with
  | some e => .error e
  | none =>
    match cutAt ']' rest with
    | none => .error (.missingSeparator .bracket (String.ofList line))
    | some (label, body) =>
      let opened : State := { q with block := some ⟨trim label, line, 0⟩ }
      if trim body = [] then .ok opened else opened.readBody (trim body)

/-- The section after one more line, which has been cleaned. -/
def readClean (q : State) : List Char → Except Failure State
  | [] => .ok q
  | '[' :: rest => q.openBlock ('[' :: rest) rest
  | line => q.readBody line

/-- The section after more lines. -/
def readAll (q : State) : List (List Char) → Except Failure State
  | [] => .ok q
  | line :: rest => (q.readClean line).bind fun q' => q'.readAll rest

/-- The equations of a section that has been read to its end. -/
def finish (q : State) : Except Failure (List SubEquation) :=
  match q.unfinished? with
  | some e => .error e
  | none => .ok q.equations.reverse

end State

/-- A line without its comment and its outer blanks. -/
def clean (line : List Char) : List Char := trim (before '!' line)

/-- The equations of the lines of a section. -/
def collect (lines : List (List Char)) : Except Failure (List SubEquation) :=
  (State.start.readAll (lines.map clean)).bind State.finish

/-- What becomes of the lines of a section. -/
def translate (lines : List (List Char)) : Logged Translation :=
  match collect lines with
  | .error e => .ofExcept (.error e)
  | .ok es => Translation.ofEquations (es.map SubEquation.equation)

end AtmosChem.Mozart
