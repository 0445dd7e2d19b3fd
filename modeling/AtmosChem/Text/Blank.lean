/-!
# Blanks

A character is **blank** if it has the White_Space property: the ten ranges below, 25 characters in
all.  Trimming takes blanks off the ends of a text and leaves the blanks inside alone.

Texts are lists of characters here, so that everything is a list function.

* `inRanges`: membership in a sorted table of ranges, the form of all character classes.
* `isBlank`: the class.
* `trimStart`, `trimEnd`, `trim`: the text without its outer blanks.
-/

namespace AtmosChem.Text

/-! ### Tables of ranges -/

/-- Whether `n` lies in one of the ranges.  The ranges ascend, so the search ends at the first one
that begins above `n`. -/
def inRanges : List (Nat × Nat) → Nat → Bool
  | [], _ => false
  | (lo, hi) :: rest, n => if n < lo then false else decide (n ≤ hi) || inRanges rest n

/-! ### The class -/

/-- The characters with the White_Space property. -/
def blankRanges : List (Nat × Nat) := [
  (0x9, 0xd), (0x20, 0x20), (0x85, 0x85), (0xa0, 0xa0), (0x1680, 0x1680),
  (0x2000, 0x200a), (0x2028, 0x2029), (0x202f, 0x202f), (0x205f, 0x205f), (0x3000, 0x3000)]

/-- Whether a character is blank. -/
def isBlank (c : Char) : Bool := inRanges blankRanges c.toNat

/-- There are 25 blanks. -/
example : (blankRanges.map fun r => r.2 - r.1 + 1).sum = 25 := by decide

/-- The blanks of ASCII are among them, the zero width space and the byte order mark are not. -/
example : [' ', '\t', '\n', '\x0b', '\x0c', '\r'].all isBlank = true ∧
    ['\u200b', '\ufeff', '0'].any isBlank = false := by decide

/-! ### Trimming -/

/-- The text from its first character that is not blank. -/
def trimStart (s : List Char) : List Char := s.dropWhile isBlank

/-- The text up to its last character outside the class `p`. -/
def dropEndWhile (p : Char → Bool) (s : List Char) : List Char := (s.reverse.dropWhile p).reverse

/-- The text up to its last character that is not blank. -/
def trimEnd (s : List Char) : List Char := dropEndWhile isBlank s

/-- The text without the blanks at its two ends. -/
def trim (s : List Char) : List Char := trimEnd (trimStart s)

@[simp] theorem trimStart_nil : trimStart [] = [] := rfl

@[simp] theorem trimEnd_nil : trimEnd [] = [] := rfl

@[simp] theorem trim_nil : trim [] = [] := rfl

theorem trimStart_cons_of_blank {c : Char} {s : List Char} (h : isBlank c = true) :
    trimStart (c :: s) = trimStart s := by
  simp [trimStart, h]

theorem trimStart_cons_of_not_blank {c : Char} {s : List Char} (h : isBlank c = false) :
    trimStart (c :: s) = c :: s := by
  simp [trimStart, h]

end AtmosChem.Text
