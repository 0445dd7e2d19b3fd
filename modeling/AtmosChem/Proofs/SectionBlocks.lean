import Mathlib.Logic.Relation
import AtmosChem.Proofs.Outcomes
import AtmosChem.Proofs.WrittenLines

/-!
# Blocks of a text

The headers of a text cut its lines into a **preamble** and **blocks**, each of which begins with
its header (`Layout`).  A section is the blocks of its word in the order of the text, so a reader
that asks for the sections of some words sees no more of a text than the blocks of each of these
words by themselves (`linesUnder_congr`): not the preamble, not the blocks of other words, and not
how the blocks of different words are mixed.

* `exists_layout`: every list of lines is cut in this way.
* `Edit`: blocks in another order, another preamble, a foreign block more or less.
* `Format.translate_edits`: none of this changes what becomes of a text.
-/

namespace AtmosChem

open Text

namespace Section

/-! ### Layouts -/

/-- A line under a header, or before the first one. -/
structure Plain (line : List Char) : Prop where
  unbroken : '\n' ∉ line
  no_header : Header.of? (trim line) = none

/-- The line of a header with the lines under it. -/
structure Block where
  heading : List Char
  header : Header
  body : List (List Char)
  unbroken : '\n' ∉ heading
  opens : Header.of? (trim heading) = some header
  plain : ∀ line ∈ body, Plain line

namespace Block

def word (b : Block) : List Char := b.header.word

def lines (b : Block) : List (List Char) := b.heading :: b.body

/-- The lines of a block as the section gets them. -/
def entries (b : Block) : List Assigned :=
  entry b.word b.header.rest ++ b.body.flatMap fun line => entry b.word (trim line)

end Block

/-- Lines cut at their headers. -/
structure Layout where
  preamble : List (List Char)
  blocks : List Block
  plain : ∀ line ∈ preamble, Plain line

namespace Layout

def lines (l : Layout) : List (List Char) := l.preamble ++ l.blocks.flatMap Block.lines

/-- The blocks of a word in their order. -/
def under (l : Layout) (word : List Char) : List Block := l.blocks.filter fun b => b.word = word

theorem newline_not_mem (l : Layout) : ∀ line ∈ l.lines, '\n' ∉ line := by
  intro line h
  rcases List.mem_append.1 h with h | h
  · exact (l.plain line h).unbroken
  · obtain ⟨b, -, hb⟩ := List.mem_flatMap.1 h
    rcases List.mem_cons.1 hb with rfl | hb
    · exact b.unbroken
    · exact (b.plain line hb).unbroken

end Layout

/-- **Lines are cut at their headers.** -/
theorem exists_layout {ls : List (List Char)} (h : ∀ line ∈ ls, '\n' ∉ line) :
    ∃ l : Layout, l.lines = ls := by
  induction ls with
  | nil => exact ⟨⟨[], [], nofun⟩, rfl⟩
  | cons line ls ih =>
    rw [List.forall_mem_cons] at h
    obtain ⟨l, rfl⟩ := ih h.2
    cases ho : Header.of? (trim line) with
    | some header =>
      -- what was the preamble of the lines behind is the body of the new block
      exact ⟨⟨[], ⟨line, header, l.preamble, h.1, ho, l.plain⟩ :: l.blocks, nofun⟩, rfl⟩
    | none =>
      exact ⟨⟨line :: l.preamble, l.blocks, List.forall_mem_cons.2 ⟨⟨h.1, ho⟩, l.plain⟩⟩, rfl⟩

/-! ### The lines of a layout under their words -/

theorem assignFrom_plain {ls : List (List Char)} (h : ∀ line ∈ ls, Plain line)
    (current : Option (List Char)) (rest : List (List Char)) :
    assignFrom current (ls.map trim ++ rest) =
      (current.elim [] fun word => ls.flatMap fun line => entry word (trim line)) ++
        assignFrom current rest := by
  induction ls with
  | nil => cases current <;> rfl
  | cons line ls ih =>
    rw [List.forall_mem_cons] at h
    rw [List.map_cons, List.cons_append, assignFrom_cons_of_none h.1.no_header, ih h.2]
    cases current <;> simp

/-- A block stands under its own word, whatever has been open before it. -/
theorem assignFrom_block (b : Block) (current : Option (List Char)) (rest : List (List Char)) :
    assignFrom current (b.lines.map trim ++ rest) =
      b.entries ++ assignFrom (some b.word) rest := by
  rw [Block.lines, List.map_cons, List.cons_append, assignFrom_cons_of_header b.opens,
    assignFrom_plain b.plain, Block.entries, Block.word, List.append_assoc]
  rfl

theorem assignFrom_blocks (bs : List Block) (current : Option (List Char)) :
    assignFrom current ((bs.flatMap Block.lines).map trim) = bs.flatMap Block.entries := by
  induction bs generalizing current with
  | nil => rfl
  | cons b bs ih =>
    rw [List.flatMap_cons, List.map_append, assignFrom_block, ih, List.flatMap_cons]

/-- **The lines of a text** stand under the words of their blocks. -/
theorem assign_of_consists {text : List Char} {l : Layout} (h : Consists text l.lines) :
    assign text = l.blocks.flatMap Block.entries := by
  rw [assign, h, Layout.lines, List.map_append, assignFrom_plain l.plain, assignFrom_blocks]
  rfl

theorem word_of_mem_entry {word text : List Char} {a : Assigned} (h : a ∈ entry word text) :
    a.1 = word := by
  rw [entry] at h
  split at h
  · exact absurd h List.not_mem_nil
  · rw [List.mem_singleton.1 h]

theorem word_of_mem_entries {b : Block} {a : Assigned} (h : a ∈ b.entries) : a.1 = b.word := by
  rcases List.mem_append.1 h with h | h
  · exact word_of_mem_entry h
  · obtain ⟨line, -, h⟩ := List.mem_flatMap.1 h
    exact word_of_mem_entry h

theorem linesUnder_entries_of_ne {b : Block} {word : List Char} (h : b.word ≠ word) :
    linesUnder word b.entries = [] := by
  have hnone : b.entries.filter (fun a => a.1 = word) = [] := by
    rw [List.filter_eq_nil_iff]
    intro a ha
    rw [word_of_mem_entries ha, decide_eq_true_eq]
    exact h
  rw [linesUnder, hnone, List.map_nil]

theorem linesUnder_flatMap_entries (word : List Char) (bs : List Block) :
    linesUnder word (bs.flatMap Block.entries) =
      linesUnder word ((bs.filter fun b => b.word = word).flatMap Block.entries) := by
  induction bs with
  | nil => rfl
  | cons b bs ih =>
    rw [List.flatMap_cons, linesUnder_append, ih, List.filter_cons]
    by_cases hb : b.word = word
    · rw [if_pos (decide_eq_true hb), List.flatMap_cons, linesUnder_append]
    · rw [if_neg (by simpa using hb), linesUnder_entries_of_ne hb, List.nil_append]

/-- **A section is the blocks of its word.** -/
theorem linesUnder_congr {text text' : List Char} {l l' : Layout} (ht : Consists text l.lines)
    (ht' : Consists text' l'.lines) {word : List Char} (h : l'.under word = l.under word) :
    linesUnder word (assign text') = linesUnder word (assign text) := by
  rw [Layout.under, Layout.under] at h
  rw [assign_of_consists ht', assign_of_consists ht, linesUnder_flatMap_entries, h,
    ← linesUnder_flatMap_entries]

/-! ### Edits -/

/-- Changes of a layout that a reader of the sections with the given names does not see. -/
inductive Edit (names : List String) (l : Layout) : Layout → Prop
  /-- The blocks in another order, those of each word in the order that they had. -/
  | reorder {blocks : List Block} (perm : blocks.Perm l.blocks)
      (order : ∀ word, blocks.filter (fun b => b.word = word) = l.under word) :
      Edit names l { l with blocks }
  /-- Another preamble, which has no header. -/
  | preamble (preamble : List (List Char)) (plain : ∀ line ∈ preamble, Plain line) :
      Edit names l { l with preamble, plain }
  /-- One more block, of a word that is not asked for. -/
  | add {front back : List Block} {b : Block} (blocks : l.blocks = front ++ back)
      (foreign : ∀ name ∈ names, b.word ≠ name.toList) :
      Edit names l { l with blocks := front ++ b :: back }
  /-- One block less, of a word that is not asked for. -/
  | delete {front back : List Block} {b : Block} (blocks : l.blocks = front ++ b :: back)
      (foreign : ∀ name ∈ names, b.word ≠ name.toList) :
      Edit names l { l with blocks := front ++ back }

abbrev Edits (names : List String) : Layout → Layout → Prop := Relation.ReflTransGen (Edit names)

theorem filter_word_append_cons {front back : List Block} {b : Block} {word : List Char}
    (h : b.word ≠ word) : (front ++ b :: back).filter (fun b => b.word = word) =
      (front ++ back).filter fun b => b.word = word := by
  rw [List.filter_append, List.filter_append, List.filter_cons, if_neg (by simpa using h)]

/-- **An edit keeps the blocks** of every word that is asked for. -/
theorem Edit.under_eq {names : List String} {l l' : Layout} (h : Edit names l l') {name : String}
    (hn : name ∈ names) : l'.under name.toList = l.under name.toList := by
  cases h with
  | reorder perm order => exact order name.toList
  | preamble preamble plain => rfl
  | add blocks foreign =>
    rw [Layout.under, Layout.under, blocks, filter_word_append_cons (foreign name hn)]
  | delete blocks foreign =>
    rw [Layout.under, Layout.under, blocks, filter_word_append_cons (foreign name hn)]

theorem Edits.under_eq {names : List String} {l l' : Layout} (h : Edits names l l') {name : String}
    (hn : name ∈ names) : l'.under name.toList = l.under name.toList := by
  induction h with
  | refl => rfl
  | tail _ hstep ih => rw [hstep.under_eq hn, ih]

end Section

/-! ### What becomes of an edited text -/

namespace Format

open Section

/-- What becomes of a text depends on the sections that are looked at. -/
theorem translate_congr {f : Format} {text text' : List Char}
    (h : ∀ name ∈ f.sectionNames,
      linesUnder name.toList (assign text') = linesUnder name.toList (assign text))
    (name : String) (tolerance : Float) :
    f.translate text' name tolerance = f.translate text name tolerance := by
  obtain ⟨hfixed, hsolved, hequations⟩ := f.sections_mem
  simp only [translate, h _ hfixed, h _ hsolved, h _ hequations]

/-- **The order of sections does not matter.**  Every text can be cut at its headers, and every
layout is that of a text.  If the layout of a text is edited in any way that keeps, in their order,
the blocks of each section that is looked at, then the same becomes of the text: the same mechanism
and the same labels, or the same failure, and the same notices. -/
theorem translate_edits (f : Format) :
    (∀ text, ∃ l : Layout, l.lines = lines text) ∧
    (∀ l : Layout, Consists (unlines l.lines) l.lines) ∧
    ∀ {l l' : Layout}, Edits f.sectionNames l l' → ∀ {text text' : List Char},
      Consists text l.lines → Consists text' l'.lines → ∀ (name : String) (tolerance : Float),
        f.translate text' name tolerance = f.translate text name tolerance := by
  refine ⟨?_, ?_, ?_⟩
  · intro text
    exact exists_layout fun line h => not_mem_of_mem_lines h
  · intro l
    exact consists_unlines l.newline_not_mem
  · intro l l' hedits text text' ht ht'
    exact translate_congr fun name hn => linesUnder_congr ht ht' (hedits.under_eq hn)

def equationBlock : Block where
  heading := "#EQUATIONS".toList
  header := ⟨"EQUATIONS".toList, []⟩
  body := ["O + O2 = O3 : 6.0e-34 ;".toList]
  unbroken := by decide +kernel
  opens := by decide +kernel
  plain := List.forall_mem_singleton.2 ⟨by decide +kernel, by decide +kernel⟩

/-- A section that KPP does not read. -/
def includeBlock : Block where
  heading := "#INCLUDE atoms".toList
  header := ⟨"INCLUDE".toList, "atoms".toList⟩
  body := []
  unbroken := by decide +kernel
  opens := by decide +kernel
  plain := nofun

/-- A section of species, the first of which stands on the line of the header. -/
def speciesBlock : Block where
  heading := "# DEFVAR O = IGNORE ;".toList
  header := ⟨"DEFVAR".toList, "O = IGNORE ;".toList⟩
  body := ["O3 = IGNORE ;".toList]
  unbroken := by decide +kernel
  opens := by decide +kernel
  plain := List.forall_mem_singleton.2 ⟨by decide +kernel, by decide +kernel⟩

def ozoneLayout : Layout where
  preamble := ["Ozone".toList]
  blocks := [equationBlock, includeBlock, speciesBlock]
  plain := List.forall_mem_singleton.2 ⟨by decide +kernel, by decide +kernel⟩

/-- The same without its preamble and the foreign block, species first. -/
def ozoneEdited : Layout where
  preamble := []
  blocks := [speciesBlock, equationBlock]
  plain := nofun

theorem edits_ozone : Edits kpp.sectionNames ozoneLayout ozoneEdited := by
  have horder : ∀ word, [speciesBlock, equationBlock].filter (fun b => b.word = word) =
      [equationBlock, speciesBlock].filter fun b => b.word = word := by
    have hne : speciesBlock.word ≠ equationBlock.word := by decide +kernel
    intro word
    by_cases hw : equationBlock.word = word
    · have hw' : speciesBlock.word ≠ word := hw ▸ hne
      simp [hw, hw']
    · simp [List.filter_cons, hw]
  have hdelete : Edit kpp.sectionNames ozoneLayout
      { ozoneLayout with blocks := [equationBlock] ++ [speciesBlock] } :=
    .delete rfl (by decide +kernel)
  exact .tail (.tail (.single hdelete) (.preamble [] nofun)) (.reorder (.swap _ _ []) horder)

def ozoneText : List Char :=
  "Ozone\r\n#EQUATIONS\r\nO + O2 = O3 : 6.0e-34 ;\r\n#INCLUDE atoms
# DEFVAR O = IGNORE ;\n  O3 = IGNORE ;".toList

def ozoneEditedText : List Char :=
  "# DEFVAR O = IGNORE ;\nO3 = IGNORE ;\n#EQUATIONS\nO + O2 = O3 : 6.0e-34 ;\n".toList

theorem translate_edits_ozone :
    Edits kpp.sectionNames ozoneLayout ozoneEdited ∧
    Consists ozoneText ozoneLayout.lines ∧ Consists ozoneEditedText ozoneEdited.lines ∧
    kpp.translate ozoneEditedText "ozone" defaultTolerance =
      kpp.translate ozoneText "ozone" defaultTolerance := by
  have ht : Consists ozoneText ozoneLayout.lines := by decide +kernel
  have ht' : Consists ozoneEditedText ozoneEdited.lines := by decide +kernel
  exact ⟨edits_ozone, ht, ht', (translate_edits kpp).2.2 edits_ozone ht ht' _ _⟩

end Format

end AtmosChem
