import AtmosChem.Text.Blank

/-!
# Cutting texts apart

Every line format of this library is read by cutting: at the first place where a character or a
word stands, or at line ends.  (To cut everywhere is `List.splitOn`.)

* `cutAt c s`: the text before the first `c` and the text after it; `none` if there is no `c`.
* `cutAtWord w s`: the same for a word of several characters.
* `before c s`: the first of these parts, or the whole text.
* `lines s`: the lines of a text.
* `strip s`: the text without its braces and outer blanks.
-/

namespace AtmosChem.Text

/-! ### Cutting once -/

/-- The text before the first `c` and the text after it. -/
def cutAt (c : Char) : List Char → Option (List Char × List Char)
  | [] => none
  | x :: s => if x = c then some ([], s) else (cutAt c s).map fun p => (x :: p.1, p.2)

/-- The text before the first occurrence of the word `w` and the text after it. -/
def cutAtWord (w : List Char) : List Char → Option (List Char × List Char)
  | [] => if w = [] then some ([], []) else none
  | x :: s =>
    if w.isPrefixOf (x :: s) then some ([], (x :: s).drop w.length)
    else (cutAtWord w s).map fun p => (x :: p.1, p.2)

/-- The text before the first `c`, or the whole text if there is none. -/
def before (c : Char) (s : List Char) : List Char := ((cutAt c s).map Prod.fst).getD s

/-- Whether the word `w` stands somewhere in the text. -/
def occurs (w s : List Char) : Bool := (cutAtWord w s).isSome

/-- The text is put together again from the two parts. -/
theorem eq_append_of_cutAt {c : Char} {s a b : List Char} (h : cutAt c s = some (a, b)) :
    s = a ++ c :: b := by
  induction s generalizing a with
  | nil => simp [cutAt] at h
  | cons x s ih =>
    by_cases hx : x = c
    · simp [cutAt, hx] at h
      simp [h, hx]
    · simp only [cutAt, hx, if_false, Option.map_eq_some_iff] at h
      obtain ⟨⟨a', b'⟩, h', he⟩ := h
      simp only [Prod.mk.injEq] at he
      obtain ⟨rfl, rfl⟩ := he
      simp [ih h']

/-- **Cutting is at the first place.** A text without the character before it is found whole. -/
theorem cutAt_append {c : Char} {a b : List Char} (h : c ∉ a) :
    cutAt c (a ++ c :: b) = some (a, b) := by
  induction a with
  | nil => simp [cutAt]
  | cons x a ih =>
    rw [List.mem_cons, not_or] at h
    simp [cutAt, Ne.symm h.1, ih h.2]

theorem cutAt_eq_none_iff {c : Char} {s : List Char} : cutAt c s = none ↔ c ∉ s := by
  induction s with
  | nil => simp [cutAt]
  | cons x s ih =>
    by_cases hx : x = c
    · simp [cutAt, hx]
    · simp [cutAt, hx, ih, Ne.symm hx]

theorem before_append {c : Char} {a b : List Char} (h : c ∉ a) : before c (a ++ c :: b) = a := by
  rw [before, cutAt_append h]
  rfl

theorem before_of_not_mem {c : Char} {s : List Char} (h : c ∉ s) : before c s = s := by
  rw [before, cutAt_eq_none_iff.2 h]
  rfl

/-! ### Lines -/

/-- The line without a carriage return at its end. -/
def dropReturn (line : List Char) : List Char :=
  if line.getLast? = some '\r' then line.dropLast else line

/-- Lines from the pieces between line feeds: a piece that a line feed ends loses its carriage
return, the last piece is a line only if it is not empty. -/
def linesOfPieces : List (List Char) → List (List Char)
  | [] => []
  | [last] => if last = [] then [] else [last]
  | line :: next :: rest => dropReturn line :: linesOfPieces (next :: rest)

/-- The lines of a text.  A line ends at a line feed, with or without a carriage return before it,
or at the end of the text. -/
def lines (s : List Char) : List (List Char) := linesOfPieces (s.splitOn '\n')

example : lines "a\r\n\nb\rc".toList = ["a".toList, [], "b\rc".toList] := by cbv

example : lines "a\nb\n".toList = ["a".toList, "b".toList] ∧ lines [] = [] := by cbv

/-! ### Braces -/

/-- The text without its braces. -/
def withoutBraces (s : List Char) : List Char := s.filter fun c => c ≠ '\x7b' && c ≠ '\x7d'

/-- The text between the braces and the outer blanks. -/
def strip (s : List Char) : List Char := trim (withoutBraces s)

end AtmosChem.Text
