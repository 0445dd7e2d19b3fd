import AtmosChem.Text.Cut

/-!
# Sections

A mechanism is divided by **headers**, lines that begin with `#` and a word.  The lines under a
header belong to the section of that word, up to the next header; what follows the word on the
header's own line belongs there too.  Lines before the first header belong to no section, blank
lines neither.

* `Header.of?`: the word of a header and the text after it.
* `assign`: every line with the word of its section.
* `linesUnder`: the lines of a section, in order, also if it was opened several times.
-/

namespace AtmosChem.Section

open Text

/-- A header: its word, and what follows the word. -/
structure Header where
  word : List Char
  rest : List Char
deriving DecidableEq, Repr

/-- The header that a trimmed line is.  Blanks may stand between the mark and the word; a mark
without a word is no header. -/
def Header.of? : List Char → Option Header
  | '#' :: s =>
    let text := trimStart s
    let word := text.takeWhile fun c => !isBlank c
    if word = [] then none else some ⟨word, trim (text.dropWhile fun c => !isBlank c)⟩
  | _ => none

example : Header.of? ['#', ' ', 'A', ' ', ' ', 'b', ' '] = some ⟨['A'], ['b']⟩ := by decide

example : Header.of? ['#'] = none ∧ Header.of? ['A'] = none ∧
    Header.of? ['#', '#', 'A'] = some ⟨['#', 'A'], []⟩ := by decide

/-- A line of a section, with the word of its header. -/
abbrev Assigned := List Char × List Char

/-- A text under a word, if there is a text. -/
def entry (word text : List Char) : List Assigned := if text = [] then [] else [(word, text)]

/-- Every trimmed line under the word of its section, given the word of the section that is open. -/
def assignFrom : Option (List Char) → List (List Char) → List Assigned
  | _, [] => []
  | current, line :: rest =>
    match Header.of? line with
    | some h => entry h.word h.rest ++ assignFrom (some h.word) rest
    | none =>
      match current with
      | some word => entry word line ++ assignFrom current rest
      | none => assignFrom none rest

theorem assignFrom_cons_of_header {line : List Char} {h : Header} (hl : Header.of? line = some h)
    (current : Option (List Char)) (rest : List (List Char)) :
    assignFrom current (line :: rest) =
      entry h.word h.rest ++ assignFrom (some h.word) rest := by
  simp only [assignFrom, hl]

theorem assignFrom_cons_of_none {line : List Char} (hl : Header.of? line = none)
    (current : Option (List Char)) (rest : List (List Char)) :
    assignFrom current (line :: rest) =
      (current.elim [] fun word => entry word line) ++ assignFrom current rest := by
  cases current <;> simp [assignFrom, hl]

/-- Every line of a text under the word of its section. -/
def assign (text : List Char) : List Assigned := assignFrom none ((lines text).map trim)

/-- The lines under a word. -/
def linesUnder (word : List Char) (assigned : List Assigned) : List (List Char) :=
  (assigned.filter fun a => a.1 = word).map Prod.snd

@[simp] theorem linesUnder_nil (word : List Char) : linesUnder word [] = [] := rfl

@[simp] theorem linesUnder_append (word : List Char) (as bs : List Assigned) :
    linesUnder word (as ++ bs) = linesUnder word as ++ linesUnder word bs := by
  simp [linesUnder]

theorem linesUnder_entry (word text : List Char) :
    linesUnder word (entry word text) = if text = [] then [] else [text] := by
  by_cases h : text = [] <;> simp [linesUnder, entry, h]

theorem linesUnder_entry_of_ne {word other : List Char} (h : other ≠ word) (text : List Char) :
    linesUnder word (entry other text) = [] := by
  by_cases ht : text = [] <;> simp [linesUnder, entry, ht, h]

/-- The sections of a text with the given names, in the order of the names. -/
def split (text : List Char) (names : List String) : List (String × List (List Char)) :=
  let assigned := assign text
  names.map fun name => (name, linesUnder name.toList assigned)

end AtmosChem.Section
