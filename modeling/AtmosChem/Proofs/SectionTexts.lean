import Mathlib.Data.List.Nodup
import AtmosChem.Proofs.SectionBlocks

/-!
# The texts of a section

A text is read line by line, with one section open at a time.  What the sections hold in the end
can be said without a reader: cut the text at its headers, take the blocks of a name one after the
other, and of each block what follows the word on its heading and the lines under it, all of them
trimmed and the empty ones left out (`Block.texts`).

* `Header.of?_eq_some_iff`: which lines are headers, and of which word.
* `linesUnder_assign`: a section is the texts of its blocks.
* `newline_not_mem_of_mem_linesUnder`: none of these texts has a line feed.
* `perm_flatMap_under`: the blocks of different words are different blocks, so no text is stored
  twice, and none is lost that stands under a name that is asked for.
* `split_texts`: the sections of a text.
-/

namespace AtmosChem.Section

open Text

/-! ### Headers as they are written -/

/-- How a header is written: a mark, blanks, a word and behind it, if anything, a blank and the
rest of the line. -/
structure Header.Heads (h : Header) (line : List Char) : Prop where
  word_ne_nil : h.word ≠ []
  word_unbroken : ∀ c ∈ h.word, isBlank c = false
  written : ∃ gap after, (∀ c ∈ gap, isBlank c = true) ∧ (∀ c ∈ after.head?, isBlank c = true) ∧
    line = '#' :: (gap ++ (h.word ++ after)) ∧ h.rest = trim after

/-- A word ends before the first blank behind it. -/
theorem takeWhile_word {word after : List Char} (hword : ∀ c ∈ word, isBlank c = false)
    (hafter : ∀ c ∈ after.head?, isBlank c = true) :
    (word ++ after).takeWhile (fun c => !isBlank c) = word ∧
      (word ++ after).dropWhile (fun c => !isBlank c) = after := by
  have hpos : ∀ c ∈ word, (!isBlank c) = true := by
    intro c hc
    rw [hword c hc]
    rfl
  rw [List.takeWhile_append_of_pos hpos, List.dropWhile_append_of_pos hpos]
  cases after with
  | nil => simp
  | cons c after =>
    have hc : isBlank c = true := hafter c rfl
    simp [hc]

/-- **Which lines are headers**, and of which word: the word is as long as it can be. -/
theorem Header.of?_eq_some_iff {line : List Char} {h : Header} :
    Header.of? line = some h ↔ h.Heads line := by
  constructor
  · intro hl
    unfold Header.of? at hl
    split at hl
    next s =>
      dsimp only at hl
      split at hl
      · simp at hl
      next hne =>
        rw [← Option.some.inj hl]
        obtain ⟨gap, hgap, hs⟩ := exists_eq_trimStart s
        refine ⟨hne, ?_, gap, (trimStart s).dropWhile fun c => !isBlank c, hgap, ?_, ?_, rfl⟩
        · intro c hc
          simpa using List.all_eq_true.1 List.all_takeWhile c hc
        · intro c hc
          have hstop := List.head?_dropWhile_not (fun c => !isBlank c) (trimStart s)
          rw [hc] at hstop
          simpa using hstop
        · rw [List.takeWhile_append_dropWhile, ← hs]
    · simp at hl
  · rintro ⟨hne, hword, gap, after, hgap, hafter, rfl, hrest⟩
    have hstart : trimStart (gap ++ (h.word ++ after)) = h.word ++ after := by
      rw [trimStart_append_of_blanks hgap, trimStart_of_head]
      intro c hc
      cases hw : h.word with
      | nil => exact absurd hw hne
      | cons d word =>
        rw [hw] at hc hword
        rw [← Option.some.inj hc]
        exact hword d List.mem_cons_self
    obtain ⟨htake, hdrop⟩ := takeWhile_word hword hafter
    simp only [Header.of?, hstart, htake, hdrop, if_neg hne, ← hrest]

/-! ### The texts of blocks -/

/-- The texts of a block: what follows the word on its heading and the lines under it, without those
that are blank. -/
def Block.texts (b : Block) : List (List Char) :=
  (b.header.rest :: b.body.map trim).filter fun text => text ≠ []

theorem linesUnder_flatMap_entry (word : List Char) (texts : List (List Char)) :
    linesUnder word (texts.flatMap (entry word)) = texts.filter fun text => text ≠ [] := by
  induction texts with
  | nil => rfl
  | cons text texts ih =>
    rw [List.flatMap_cons, linesUnder_append, ih, linesUnder_entry, List.filter_cons]
    by_cases h : text = [] <;> simp [h]

theorem linesUnder_entries (b : Block) : linesUnder b.word b.entries = b.texts := by
  have hentries : b.entries = (b.header.rest :: b.body.map trim).flatMap (entry b.word) := by
    rw [Block.entries, List.flatMap_cons, List.flatMap_map]
  rw [hentries, linesUnder_flatMap_entry, Block.texts]

/-- **A section is the texts of its blocks**, one block after the other. -/
theorem linesUnder_assign {text : List Char} {l : Layout} (h : Consists text l.lines)
    (word : List Char) :
    linesUnder word (assign text) = (l.under word).flatMap Block.texts := by
  rw [assign_of_consists h, Layout.under]
  induction l.blocks with
  | nil => rfl
  | cons b bs ih =>
    rw [List.flatMap_cons, linesUnder_append, ih, List.filter_cons]
    by_cases hb : b.word = word
    · rw [if_pos (decide_eq_true hb), List.flatMap_cons, ← hb, linesUnder_entries]
    · rw [if_neg (by simpa using hb), linesUnder_entries_of_ne hb, List.nil_append]

theorem tight_of_mem_texts {b : Block} {text : List Char} (h : text ∈ b.texts) :
    text ≠ [] ∧ Tight text := by
  obtain ⟨hmem, hne⟩ := List.mem_filter.1 h
  refine ⟨by simpa using hne, ?_⟩
  rcases List.mem_cons.1 hmem with rfl | hmem
  · obtain ⟨-, -, gap, after, -, -, -, hrest⟩ := Header.of?_eq_some_iff.1 b.opens
    rw [hrest]
    exact tight_trim after
  · obtain ⟨line, -, rfl⟩ := List.mem_map.1 hmem
    exact tight_trim line

/-- **A text of a section has no line feed**, as the line that it stands on. -/
theorem newline_not_mem_of_mem_linesUnder {text word line : List Char}
    (h : line ∈ linesUnder word (assign text)) : '\n' ∉ line := by
  have hlines : ∀ line ∈ lines text, '\n' ∉ line := fun line hline => not_mem_of_mem_lines hline
  obtain ⟨l, hl⟩ := exists_layout hlines
  have hconsists : Consists text l.lines := by
    rw [hl]
    exact consists_lines text
  rw [linesUnder_assign hconsists] at h
  obtain ⟨b, -, hb⟩ := List.mem_flatMap.1 h
  intro hnewline
  rcases List.mem_cons.1 (List.mem_filter.1 hb).1 with rfl | hbody
  · -- the rest of a heading stands in the heading
    obtain ⟨-, -, gap, after, -, -, hheading, hrest⟩ := Header.of?_eq_some_iff.1 b.opens
    rw [hrest] at hnewline
    have hmem : '\n' ∈ trim b.heading := by
      rw [hheading]
      simp [mem_of_mem_trim hnewline]
    exact b.unbroken (mem_of_mem_trim hmem)
  · obtain ⟨line, hline, rfl⟩ := List.mem_map.1 hbody
    exact (b.plain line hline).unbroken (mem_of_mem_trim hnewline)

/-! ### No text twice, none lost -/

/-- The blocks of different words are different ones. -/
theorem perm_flatMap_filter (bs : List Block) {words : List (List Char)} (h : words.Nodup) :
    (words.flatMap fun word => bs.filter fun b => b.word = word).Perm
      (bs.filter fun b => b.word ∈ words) := by
  induction words with
  | nil => simp
  | cons word words ih =>
    rw [List.nodup_cons] at h
    -- the blocks of all words are those of the first one, and the others
    have hsplit := List.filter_append_perm (fun b : Block => b.word = word)
      (bs.filter fun b => b.word ∈ word :: words)
    rw [List.filter_filter, List.filter_filter] at hsplit
    have hfirst : (bs.filter fun b => (b.word = word) && (b.word ∈ word :: words)) =
        bs.filter fun b => b.word = word := by
      refine List.filter_congr fun b _ => ?_
      by_cases hb : b.word = word <;> simp [hb]
    have hothers : (bs.filter fun b => !(b.word = word) && (b.word ∈ word :: words)) =
        bs.filter fun b => b.word ∈ words := by
      refine List.filter_congr fun b _ => ?_
      by_cases hb : b.word = word <;> simp [hb, h.1]
    rw [hfirst, hothers] at hsplit
    rw [List.flatMap_cons]
    exact ((ih h.2).append_left _).trans hsplit

theorem perm_flatMap_under (l : Layout) {names : List String} (h : names.Nodup) :
    (names.flatMap fun name => (l.under name.toList).flatMap Block.texts).Perm
      ((l.blocks.filter fun b => b.word ∈ names.map String.toList).flatMap Block.texts) := by
  have hwords : (names.map String.toList).Nodup :=
    List.Nodup.map (fun _ _ => String.toList_injective) h
  have hperm := (perm_flatMap_filter l.blocks hwords).flatMap_right Block.texts
  rwa [List.flatMap_assoc, List.flatMap_map] at hperm

/-! ### The sections of a text -/

theorem lookup_split {text : List Char} {names : List String} {name : String} (h : name ∈ names) :
    (split text names).lookup name = some (linesUnder name.toList (assign text)) := by
  rw [split]
  induction names with
  | nil => simp at h
  | cons other names ih =>
    rw [List.map_cons, List.lookup_cons]
    by_cases ho : name = other
    · simp [ho]
    · rw [beq_eq_false_iff_ne.2 ho]
      exact ih (List.mem_of_ne_of_mem ho h)

/-- **The sections of a text.**  Every text can be cut at its headers, and only there, into a
preamble and blocks.  The sections have the given names, in their order, and each holds the texts
of the blocks whose word is its name, in the order of the text.  All sections together hold the
texts of the blocks whose words are among the names, each of them once, and nothing else; and what
they hold is not empty and has no blanks at its ends. -/
theorem split_texts (text : List Char) {names : List String} (hnames : names.Nodup) :
    (split text names).map Prod.fst = names ∧
    (∃ l : Layout, l.lines = lines text) ∧
    ∀ l : Layout, l.lines = lines text →
      (∀ b ∈ l.blocks, b.header.Heads (trim b.heading)) ∧
      (∀ line ∈ l.preamble ++ l.blocks.flatMap Block.body, ¬ ∃ h : Header, h.Heads (trim line)) ∧
      (∀ name ∈ names,
        (split text names).lookup name = some ((l.under name.toList).flatMap Block.texts)) ∧
      ((split text names).flatMap Prod.snd).Perm
        ((l.blocks.filter fun b => b.word ∈ names.map String.toList).flatMap Block.texts) ∧
      ∀ p ∈ split text names, ∀ line ∈ p.2, line ≠ [] ∧ Tight line := by
  refine ⟨?_, exists_layout fun line h => not_mem_of_mem_lines h, ?_⟩
  · rw [split, List.map_map]
    exact List.map_id names
  intro l hl
  have hunder : ∀ word, linesUnder word (assign text) = (l.under word).flatMap Block.texts :=
    linesUnder_assign (by rw [Consists, hl])
  refine ⟨?_, ?_, ?_, ?_, ?_⟩
  · intro b hb
    exact Header.of?_eq_some_iff.1 b.opens
  · rintro line hline ⟨h, hh⟩
    have hplain : Plain line := by
      rcases List.mem_append.1 hline with hline | hline
      · exact l.plain line hline
      · obtain ⟨b, -, hb⟩ := List.mem_flatMap.1 hline
        exact b.plain line hb
    have hnone := hplain.no_header
    rw [Header.of?_eq_some_iff.2 hh] at hnone
    exact absurd hnone (Option.some_ne_none h)
  · intro name hname
    rw [lookup_split hname, hunder]
  · have hperm := perm_flatMap_under l hnames
    simp only [← hunder] at hperm
    rwa [split, List.flatMap_map]
  · intro p hp line hline
    obtain ⟨name, -, rfl⟩ := List.mem_map.1 hp
    rw [hunder] at hline
    obtain ⟨b, -, hb⟩ := List.mem_flatMap.1 hline
    exact tight_of_mem_texts hb

/-- A section that is opened twice, another one whose name only begins like it, a mark without a
word and lines that belong nowhere. -/
def mixedText : List Char :=
  "ozone\n#DEFVAR O3 = IGNORE ;\r\n\n # \n#DEFVARS\nNO2 = IGNORE ;
#\tDEFVAR\n NO = IGNORE ;".toList

theorem split_texts_mixedText :
    ["EQUATIONS", "DEFVAR"].Nodup ∧
    (split mixedText ["EQUATIONS", "DEFVAR"]).map Prod.fst = ["EQUATIONS", "DEFVAR"] ∧
    ∃ l : Layout, l.lines = lines mixedText ∧
      (split mixedText ["EQUATIONS", "DEFVAR"]).lookup "DEFVAR" =
        some ((l.under "DEFVAR".toList).flatMap Block.texts) ∧
      (l.under "DEFVAR".toList).flatMap Block.texts =
        ["O3 = IGNORE ;".toList, "#".toList, "NO = IGNORE ;".toList] := by
  have hnames : ["EQUATIONS", "DEFVAR"].Nodup := by decide
  obtain ⟨hkeys, ⟨l, hl⟩, hall⟩ := split_texts mixedText hnames
  obtain ⟨-, -, hlookup, -, -⟩ := hall l hl
  have htexts := hlookup "DEFVAR" (by decide)
  refine ⟨hnames, hkeys, l, hl, htexts, Option.some.inj (htexts.symm.trans ?_)⟩
  decide +kernel

end AtmosChem.Section
