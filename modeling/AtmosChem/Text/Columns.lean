import AtmosChem.Text.Picture
import AtmosChem.Text.Width

/-!
# Display columns

A terminal shows a text in columns, and a table is only straight if its cells are counted in them.
A text is not as wide as its characters are one by one: a selector turns a sign into a picture, a
joiner makes one picture of several, and in some scripts two letters become one sign.

So a text is read from its end, with a **context** that keeps what matters of the characters to the
right.  `step` gives the columns that one more character adds, which may be less than none.  Escape
sequences for colours, which a terminal obeys and does not show, are taken off afterwards.

* `Ligature`, `Neighbour`, `Context`: what stands to the right of a character.
* `alone`: a character whose neighbour does not matter.
* `step`, `shownWidth`: the columns of a text, escape sequences included.
* `escapedWidth`: the columns that belong to escape sequences.
* `columns`: the columns of a line.  `columns_eq_length` says that a line of plain characters is as
  wide as it is long.
-/

namespace AtmosChem.Text

/-! ### Contexts -/

/-- A letter that the character before it may be joined with.  A flag says whether a joiner stands
between the two. -/
inductive Ligature
  | alef
  | lamed (joined : Bool)
  | khmer
  | buginese (joined : Bool)
  | bugineseVowel
  | tifinagh (joined : Bool)
  | tifinaghPair
  | lisu
  | turkic (joined : Bool)
deriving DecidableEq, Repr

/-- What stands to the right of a character.  The neighbours whose names begin with `joined` stand
to the right of a joiner and are part of a picture. -/
inductive Neighbour
  | plain
  | ligature (letter : Ligature)
  | modifier
  | indicator
  | indicators
  | picture
  | joined
  | joinedKeycap
  | joinedIndicator
  | joinedEven
  | joinedOdd
  /-- The end of a tag, letters of it included. -/
  | joinedLetters (count : Nat)
  /-- The end of a tag, digits of it included. -/
  | joinedDigits (count : Nat)
deriving DecidableEq, Repr

/-- A character that says how the one before it is shown. -/
inductive Selector
  | picture
  | text
deriving DecidableEq, Repr

/-- What matters of the text to the right of a character: a neighbour, and a selector before it. -/
structure Context where
  neighbour : Neighbour
  selector : Option Selector
deriving DecidableEq, Repr

/-- The context of a neighbour without a selector. -/
def Neighbour.context (x : Neighbour) : Context := ⟨x, none⟩

/-- The context at the end of a text. -/
def Context.plain : Context := Neighbour.plain.context

/-- The neighbour behind a selector.  Letters can be seen through one, and a joiner can be seen
through the one that makes pictures; all else is forgotten. -/
def Neighbour.behind (s : Selector) : Neighbour → Neighbour
  | .ligature letter => .ligature letter
  | .joined | .joinedKeycap => if s = .picture then .joined else .plain
  | _ => .plain

/-- The neighbour of a character that the selector does not apply to. -/
def Context.unselected (x : Context) : Neighbour :=
  match x.selector, x.neighbour with
  | none, n => n
  | some _, .ligature letter => .ligature letter
  | some _, _ => .plain

/-! ### Single characters -/

/-- Whether the number of a character lies between two others. -/
def between (lo hi : Nat) (c : Char) : Bool := decide (lo ≤ c.toNat) && decide (c.toNat ≤ hi)

/-- The character that joins two others. -/
def joiner : Char := '\u200d'

/-- The letters that an alef before them takes in. -/
def lamRanges : List (Nat × Nat) := [
  (0x644, 0x644), (0x6b5, 0x6b8), (0x76a, 0x76a), (0x8a6, 0x8a6), (0x8c7, 0x8c7)]

/-- The letters of the form of alef. -/
def alefRanges : List (Nat × Nat) := [
  (0x622, 0x623), (0x625, 0x625), (0x627, 0x627), (0x671, 0x673), (0x675, 0x675),
  (0x773, 0x774), (0x870, 0x882)]

/-- The Khmer letters that can stand below another one. -/
def khmerRanges : List (Nat × Nat) := [
  (0x1780, 0x1782), (0x1784, 0x1787), (0x1789, 0x178c), (0x178e, 0x1793), (0x1795, 0x1798),
  (0x179b, 0x179d), (0x17a0, 0x17a0), (0x17a2, 0x17a2), (0x17a7, 0x17a7), (0x17ab, 0x17ac),
  (0x17af, 0x17af)]

/-- The Tifinagh consonants. -/
def tifinaghRanges : List (Nat × Nat) := [(0x2d31, 0x2d65), (0x2d6f, 0x2d6f)]

/-- The characters that do not keep two letters from being joined. -/
def ignoredRanges : List (Nat × Nat) := [
  (0x34f, 0x34f), (0x17b4, 0x17b5), (0x180b, 0x180d), (0x180f, 0x180f), (0xfe00, 0xfe0f),
  (0xe0100, 0xe01ef)]

/-- What a letter of one column is to the character before it. -/
def letterNeighbour (n : Nat) : Neighbour :=
  if n = 0x5dc then .ligature (.lamed false)
  else if inRanges alefRanges n then .ligature .alef
  else if inRanges khmerRanges n then .ligature .khmer
  else if n = 0x1a10 then .ligature (.buginese false)
  else if inRanges tifinaghRanges n then .ligature (.tifinagh false)
  else if n = 0xa4fc ∨ n = 0xa4fd then .ligature .lisu
  else if n = 0x10c03 then .ligature (.turkic false)
  else .plain

/-- A character whose neighbour does not matter: its columns, and what it is to the character before
it.  The Khmer sign for "and so forth" takes three columns. -/
def alone (c : Char) : Int × Neighbour :=
  if isZeroWidth c then (0, .plain)
  else if isModifier c then (2, .modifier)
  else if isIndicator c then (1, .indicator)
  else if isPicture c then (2, .picture)
  else if isWide c then (2, .plain)
  else if c = '\u17d8' then (3, .plain)
  else (1, letterNeighbour c.toNat)

/-! ### Neighbours -/

/-- The letter with a joiner before it. -/
def Ligature.withJoiner : Ligature → Ligature
  | .lamed _ => .lamed true
  | .buginese _ => .buginese true
  | .tifinagh _ => .tifinagh true
  | .turkic _ => .turkic true
  | letter => letter

/-- A character before a letter, if the two become one sign or the letter can be seen through the
character. -/
def Ligature.before? (c : Char) : Ligature → Option (Int × Neighbour)
  | .alef =>
    if inRanges lamRanges c.toNat then some (0, .plain)
    else if isTransparent c then some (0, .ligature .alef)
    else none
  | .lamed joined => if joined && c = '\u05d0' then some (0, .plain) else through? c (.lamed joined)
  | .khmer => if c = '\u17d2' then some (-1, .plain) else through? c .khmer
  | .buginese joined =>
    if joined && c = '\u1a17' then some (0, .ligature .bugineseVowel)
    else through? c (.buginese joined)
  | .bugineseVowel => if c = '\u1a15' then some (0, .plain) else through? c .bugineseVowel
  | .tifinagh joined =>
    if c = '\u2d7f' then some (1, .ligature .tifinaghPair)
    else if joined && inRanges tifinaghRanges c.toNat then some (0, .plain)
    else through? c (.tifinagh joined)
  | .tifinaghPair =>
    if inRanges tifinaghRanges c.toNat then some (-1, .plain) else through? c .tifinaghPair
  | .lisu => if between 0xa4f8 0xa4fb c then some (0, .plain) else through? c .lisu
  | .turkic joined =>
    if joined && between 0x10c32 0x10c32 c then some (0, .plain) else through? c (.turkic joined)
where
  /-- A character that a letter can be seen through. -/
  through? (c : Char) (letter : Ligature) : Option (Int × Neighbour) :=
    if c = joiner then some (0, .ligature letter.withJoiner)
    else if inRanges ignoredRanges c.toNat then some (0, .ligature letter)
    else none

/-- A character before a neighbour, if the neighbour changes what the character adds. -/
def Neighbour.before? (c : Char) : Neighbour → Option (Int × Neighbour)
  | .plain => none
  | .ligature letter => letter.before? c
  | .modifier => if isModifiable c then some (0, .picture) else join? c
  | .indicator => if isIndicator c then some (1, .indicators) else none
  | .indicators => if isIndicator c then some (1, .indicators) else join? c
  | .picture => join? c
  | .joined =>
    if c = '\u20e3' then some (0, .joinedKeycap)
    else if isIndicator c then some (1, .joinedIndicator)
    else if isModifier c then some (0, .modifier)
    else if c.toNat = 0xe007f then some (0, .joinedLetters 0)
    else if (alone c).2 = .picture then some (0, .picture)
    else none
  | .joinedKeycap => none
  | .joinedIndicator => if isIndicator c then some (-1, .joinedEven) else none
  | .joinedEven => if isIndicator c then some (3, .joinedOdd) else join? c
  | .joinedOdd => if isIndicator c then some (-1, .joinedEven) else join? c
  | .joinedLetters n =>
    if between 0xe0061 0xe007a c ∧ n < 6 then some (0, .joinedLetters (n + 1))
    else if between 0xe0030 0xe0039 c ∧ n < 5 then some (0, .joinedDigits 1)
    else if c = '🏴' ∧ 3 ≤ n then some (0, .picture)
    else none
  | .joinedDigits n =>
    if between 0xe0030 0xe0039 c ∧ n < 3 then some (0, .joinedDigits (n + 1))
    else if c = '🏴' ∧ n = 3 then some (0, .picture)
    else none
where
  /-- A joiner before a picture. -/
  join? (c : Char) : Option (Int × Neighbour) := if c = joiner then some (0, .joined) else none

/-- The columns that a character adds before a neighbour, and what it is to the character before it.
The characters up to the hard blank, controls among them, add a column whatever follows. -/
def Neighbour.add (c : Char) (x : Neighbour) : Int × Neighbour :=
  if c.toNat ≤ 0xa0 then (1, .plain) else (x.before? c).getD (alone c)

/-! ### Texts -/

/-- The columns that a character adds to the text on its right, and the context to its left. -/
def step (c : Char) (x : Context) : Int × Context :=
  if x.selector = some .picture ∧ isSelectable c then
    (if x.neighbour = .joined then 0 else 2, Neighbour.picture.context)
  else if x.selector = some .text ∧ isNarrowable c then (1, .plain)
  else if c = '\ufe0f' then (0, ⟨x.unselected.behind .picture, some .picture⟩)
  else if c = '\ufe0e' then (0, ⟨x.unselected.behind .text, some .text⟩)
  else
    let (width, y) := x.unselected.add c
    (width, y.context)

/-- The columns of a text, and the context to its left. -/
def measured (s : List Char) : Int × Context :=
  s.foldr (fun c m => let (width, x) := step c m.2; (m.1 + width, x)) (0, .plain)

/-- The columns of a text, those of its escape sequences included. -/
def shownWidth (s : List Char) : Nat := (measured s).1.toNat

theorem step_of_low {c : Char} (h : c.toNat ≤ 0xa0) : step c .plain = (1, .plain) := by
  have h₁ : c ≠ '\ufe0f' := fun e => by subst e; exact absurd h (by decide)
  have h₂ : c ≠ '\ufe0e' := fun e => by subst e; exact absurd h (by decide)
  simp [step, Context.plain, Neighbour.context, Neighbour.add, h, h₁, h₂]

theorem measured_cons (c : Char) (s : List Char) :
    measured (c :: s) =
      ((measured s).1 + (step c (measured s).2).1, (step c (measured s).2).2) := rfl

theorem measured_of_low {s : List Char} (h : ∀ c ∈ s, c.toNat ≤ 0xa0) :
    measured s = ((s.length : Int), Context.plain) := by
  induction s with
  | nil => rfl
  | cons c s ih =>
    rw [measured_cons, ih fun d hd => h d (List.mem_cons_of_mem c hd),
      step_of_low (h c List.mem_cons_self)]
    simp

/-! ### Escape sequences -/

/-- Where a reader of escape sequences is. -/
inductive EscapeState
  | outside
  | escape
  | inside
deriving DecidableEq, Repr

/-- Whether a character is counted inside an escape sequence: controls and characters without a
column are not. -/
def countsInside (c : Char) : Bool :=
  decide (0x20 ≤ c.toNat) && !between 0x7f 0x9f c && !isZeroWidth c

/-- The columns that belong to escape sequences, for a reader in some state.  A sequence begins with
the escape character and a bracket and ends with the next `m`; the escape character itself takes a
column that is not counted here. -/
def escapedFrom : EscapeState → List Char → Nat
  | _, [] => 0
  | .outside, c :: s => escapedFrom (if c = '\x1b' then .escape else .outside) s
  | .escape, c :: s => if c = '[' then 1 + escapedFrom .inside s else escapedFrom .outside s
  | .inside, c :: s =>
    (if countsInside c then 1 else 0) + escapedFrom (if c = 'm' then .outside else .inside) s

/-- The columns of the escape sequences in a text. -/
def escapedWidth (s : List Char) : Nat := escapedFrom .outside s

theorem escapedWidth_of_not_mem {s : List Char} (h : '\x1b' ∉ s) : escapedWidth s = 0 := by
  unfold escapedWidth
  induction s with
  | nil => rfl
  | cons c s ih =>
    rw [List.mem_cons, not_or] at h
    rw [escapedFrom, if_neg (Ne.symm h.1)]
    exact ih h.2

/-! ### Lines -/

/-- The columns of a line. -/
def columns (s : List Char) : Nat := shownWidth s - escapedWidth s

/-- **A line of plain characters is as wide as it is long.** -/
theorem columns_eq_length {s : List Char} (low : ∀ c ∈ s, c.toNat ≤ 0xa0)
    (shown : '\x1b' ∉ s) : columns s = s.length := by
  simp [columns, shownWidth, measured_of_low low, escapedWidth_of_not_mem shown]

/-- Ideographs and full letters, marks and fillers. -/
example : columns ['한', '글'] = 4 ∧ columns ['Ａ', 'x', '\u3000'] = 5 ∧
    columns ['e', '\u0301', '\u200b', '\ufeff'] = 1 := by decide +kernel

/-- Pictures: side by side, joined, chosen by a selector, and two flags. -/
example : columns ['🙂', '🙂'] = 4 ∧ columns ['👩', '\u200d', '🔬'] = 2 ∧
    columns ['1', '\ufe0f', '\u20e3'] = 2 ∧ columns ['☀', '\ufe0f', '⌚', '\ufe0e'] = 3 ∧
    columns ['🇩', '🇪', '🇫', '🇷'] = 4 := by decide +kernel

/-- Two letters in one column: lam and alef, and a Khmer letter below another one. -/
example : columns ['\u0644', '\u0627'] = 1 ∧ columns ['\u1780', '\u17d2', '\u1780'] = 1 := by
  decide +kernel

/-- A colour is set and taken back: only the two escape characters count. -/
example : columns ['\x1b', '[', '3', '1', 'm', 'O', '3', '\x1b', '[', '0', 'm'] = 4 := by
  decide +kernel

end AtmosChem.Text
