import AtmosChem.Mechanism.Basic
import AtmosChem.Decimal.Digits
import AtmosChem.Text.Columns
import AtmosChem.Text.Cut

/-!
# The summary of a mechanism

A table with a row for every reaction: its number, its name, the kind of its law and its two sides.
Cells are padded on the right to the widest cell of their column, as a terminal shows them, and a
rule stands above the first row and below every row.

* `Table.render`: the text of rows.
* `Mechanism.table`: the table of a mechanism.
-/

namespace AtmosChem

open Text

/-- The rows of a table. -/
abbrev Table := List (List (List Char))

namespace Table

/-- The lines of a cell, at least one. -/
def cellLines (cell : List Char) : List (List Char) :=
  match lines cell with
  | [] => [[]]
  | ls => ls

/-- The width of a cell: that of its widest line. -/
def cellWidth (cell : List Char) : Nat := (cellLines cell).foldl (fun w l => max w (columns l)) 0

/-- The widths of the columns, the widths of a row taken into account. -/
def widen : List Nat → List (List Char) → List Nat
  | ws, [] => ws
  | [], c :: cs => cellWidth c :: widen [] cs
  | w :: ws, c :: cs => max w (cellWidth c) :: widen ws cs

/-- The widths of the columns. -/
def widths (t : Table) : List Nat := t.foldl widen []

/-- The rule between rows. -/
def rule (ws : List Nat) : List Char :=
  '+' :: ws.flatMap (fun w => List.replicate (w + 2) '-' ++ ['+']) ++ ['\n']

/-- A text padded on the right. -/
def padded (width : Nat) (s : List Char) : List Char :=
  s ++ List.replicate (width - columns s) ' '

/-- A line of a row: the given line of each of its cells. -/
def rowLine (ws : List Nat) (cells : List (List (List Char))) (i : Nat) : List Char :=
  '|' :: (ws.zip cells).flatMap (fun p => ' ' :: padded p.1 (p.2.getD i []) ++ [' ', '|'])
    ++ ['\n']

/-- A row, with the rule below it. -/
def row (ws : List Nat) (cells : List (List Char)) : List Char :=
  let parts := cells.map cellLines
  let height := parts.foldl (fun h p => max h p.length) 1
  (List.range height).flatMap (rowLine ws parts) ++ rule ws

/-- The text of a table. -/
def render (t : Table) : List Char :=
  rule t.widths ++ t.flatMap (row t.widths)

end Table

namespace Mechanism

/-- The row above all others. -/
def heading : List (List Char) :=
  ["#", "reaction", "rate law", "reactants", "products"].map String.toList

/-- The species of a side with plus signs between them. -/
def sumOf (as : Amounts) : List Char := (" + ".intercalate as.species).toList

/-- The rows of reactions, counted from some number on. -/
def rowsFrom : Nat → List Reaction → Table
  | _, [] => []
  | n, r :: rs =>
    [Decimal.decimalText n, r.name.toList, r.law.kind.tag.toList,
      sumOf r.stoichiometry.reactants, sumOf r.stoichiometry.products] :: rowsFrom (n + 1) rs

/-- The table of a mechanism. -/
def table (m : Mechanism) : String :=
  String.ofList (Table.render (heading :: rowsFrom 1 m.reactions))

/-- The line that counts what a mechanism holds. -/
def headline (m : Mechanism) : String :=
  "mechanism " ++ m.name ++ ": " ++ toString m.species.length ++ " species, "
    ++ toString m.reactions.length ++ " reactions\n"

end Mechanism

end AtmosChem
