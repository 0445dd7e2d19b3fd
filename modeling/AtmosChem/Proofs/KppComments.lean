import AtmosChem.Proofs.Outcomes
import AtmosChem.Proofs.WrittenLines

/-!
# Comments and blank lines of KPP

A line of KPP that is blank, or a comment as a whole, is **idle**: it may stand anywhere.  It is
never a header, so it opens and closes no section; and where it comes into a section, the species
and the equations are read without it, before any place is counted (`filter_linesUnder_padded`).

* `Idle`: the lines that count as nothing.
* `Padded`: lines with idle lines put in between.
* `translate_padded`: idle lines make no difference to what becomes of a text.
-/

namespace AtmosChem.Kpp

open Text Section

/-! ### Idle lines -/

/-- A line that is blank, a comment behind two slashes, or a comment in braces. -/
inductive Idle (line : List Char) : Prop
  | blank (h : trim line = [])
  | slashes (text : List Char) (h : trim line = '/' :: '/' :: text)
  | braces (text : List Char) (h : trim line = '\x7b' :: (text ++ ['\x7d']))

theorem isContent_of_trim {line : List Char} {s : List Char} (h : trim line = s) :
    isContent line = (s != [] && !isComment s) := by
  rw [isContent, h]

theorem isContent_trim (line : List Char) : isContent (trim line) = isContent line := by
  rw [isContent_of_trim (trim_of_tight (tight_trim line)), isContent]

theorem Idle.isContent_eq_false {line : List Char} (h : Idle line) : isContent line = false := by
  cases h with
  | blank h => rw [isContent_of_trim h]; rfl
  | slashes text h => simp [isContent_of_trim h, isComment]
  | braces text h =>
    have hlast : ('\x7b' :: (text ++ ['\x7d'])).getLast? = some '\x7d' := by
      rw [← List.cons_append, List.getLast?_concat]
    simp [isContent_of_trim h, isComment, hlast]

theorem Idle.header_eq_none {line : List Char} (h : Idle line) :
    Header.of? (trim line) = none := by
  cases h with
  | blank h => rw [h]; rfl
  | slashes text h => rw [h]; rfl
  | braces text h => rw [h]; rfl

/-! ### Lines with idle lines between them -/

/-- Lines with idle lines put in between, in any number and at any places. -/
inductive Padded : List (List Char) → List (List Char) → Prop
  | nil : Padded [] []
  | keep (line : List Char) {ls ls' : List (List Char)} : Padded ls ls' →
      Padded (line :: ls) (line :: ls')
  | insert {line : List Char} {ls ls' : List (List Char)} (unbroken : '\n' ∉ line)
      (idle : Idle line) : Padded ls ls' → Padded ls (line :: ls')

theorem Padded.newline_not_mem {ls ls' : List (List Char)} (h : Padded ls ls')
    (hls : ∀ line ∈ ls, '\n' ∉ line) : ∀ line ∈ ls', '\n' ∉ line := by
  induction h with
  | nil => exact hls
  | keep line _ ih =>
    rw [List.forall_mem_cons] at hls ⊢
    exact ⟨hls.1, ih hls.2⟩
  | insert unbroken _ _ ih => exact List.forall_mem_cons.2 ⟨unbroken, ih hls⟩

/-- In a section, an idle line comes to nothing. -/
theorem filter_linesUnder_of_idle {line : List Char} (h : Idle line) (word : List Char)
    (current : Option (List Char)) :
    (linesUnder word (current.elim [] fun w => entry w (trim line))).filter isContent = [] := by
  have hidle : isContent (trim line) = false := (isContent_trim line).trans h.isContent_eq_false
  cases current with
  | none => rfl
  | some w =>
    rw [Option.elim_some]
    by_cases hw : w = word
    · rw [hw, linesUnder_entry]
      split
      · rfl
      · rw [List.filter_cons, hidle]
        rfl
    · rw [linesUnder_entry_of_ne hw, List.filter_nil]

/-- **The lines of a section that hold something** are the same with idle lines and without them,
whatever section is open. -/
theorem filter_linesUnder_padded {ls ls' : List (List Char)} (h : Padded ls ls')
    (word : List Char) (current : Option (List Char)) :
    (linesUnder word (assignFrom current (ls'.map trim))).filter isContent =
      (linesUnder word (assignFrom current (ls.map trim))).filter isContent := by
  induction h generalizing current with
  | nil => rfl
  | keep line _ ih =>
    rw [List.map_cons, List.map_cons]
    cases ho : Header.of? (trim line) with
    | some header =>
      simp only [assignFrom_cons_of_header ho, linesUnder_append, List.filter_append, ih]
    | none =>
      simp only [assignFrom_cons_of_none ho, linesUnder_append, List.filter_append, ih]
  | insert _ idle _ ih =>
    rw [List.map_cons, assignFrom_cons_of_none idle.header_eq_none, linesUnder_append,
      List.filter_append, filter_linesUnder_of_idle idle, List.nil_append, ih]

/-! ### What becomes of a text -/

/-- What becomes of a text depends on the lines of its sections that hold something. -/
theorem translate_congr {text text' : List Char}
    (h : ∀ word, (linesUnder word (assign text')).filter isContent =
      (linesUnder word (assign text)).filter isContent)
    (name : String) (tolerance : Float) :
    Format.kpp.translate text' name tolerance = Format.kpp.translate text name tolerance := by
  simp only [Format.translate, Format.species, Format.speciesNotices, Format.equations, species,
    speciesNotices, declarations, translate, h]

/-- **Idle lines make no difference.**  The lines of a text with blank lines and comments put in
between, wherever this is, make up a text again, and the same becomes of it: the same species, the
same reactions under the same names, the same labels, or the same failure, and the same notices. -/
theorem translate_padded {text : List Char} {ls : List (List Char)} (h : Padded (lines text) ls)
    (name : String) (tolerance : Float) :
    Consists (unlines ls) ls ∧
    ∀ text', Consists text' ls →
      Format.kpp.translate text' name tolerance = Format.kpp.translate text name tolerance := by
  refine ⟨consists_unlines (h.newline_not_mem fun line hline => not_mem_of_mem_lines hline), ?_⟩
  intro text' ht'
  refine translate_congr (fun word => ?_) name tolerance
  rw [assign, assign, ht', filter_linesUnder_padded h]

/-- A species and two equations, one of them with an unknown rate. -/
def bareText : List Char :=
  "#DEFVAR\nO3 = IGNORE ;\n#EQUATIONS\nO = O3 : f(1) ;\nO3 = O : 1.0e-3 ;".toList

/-- The same with idle lines at the beginning, in both sections and at the end. -/
def commentedText : List Char :=
  "// ozone\n#DEFVAR\n\x7b species \x7d\nO3 = IGNORE ;\n#EQUATIONS\nO = O3 : f(1) ;
\t// back again\n\nO3 = O : 1.0e-3 ;\n\x7bend\x7d \n".toList

theorem padded_commentedText : Padded (lines bareText) (lines commentedText) := by
  have hbare : lines bareText = ["#DEFVAR".toList, "O3 = IGNORE ;".toList, "#EQUATIONS".toList,
      "O = O3 : f(1) ;".toList, "O3 = O : 1.0e-3 ;".toList] := by decide +kernel
  have hcommented : lines commentedText = ["// ozone".toList, "#DEFVAR".toList,
      "\x7b species \x7d".toList, "O3 = IGNORE ;".toList, "#EQUATIONS".toList, "O = O3 : f(1) ;".toList,
      "\t// back again".toList, [], "O3 = O : 1.0e-3 ;".toList, "\x7bend\x7d ".toList] := by
    decide +kernel
  rw [hbare, hcommented]
  refine .insert (by decide +kernel) (.slashes _ rfl) (.keep _ ?_)
  refine .insert (by decide +kernel) (.braces " species ".toList rfl) (.keep _ ?_)
  refine .keep _ (.keep _ (.insert (by decide +kernel) (.slashes _ rfl) ?_))
  refine .insert (by decide +kernel) (.blank rfl) (.keep _ ?_)
  exact .insert (by decide +kernel) (.braces "end".toList rfl) .nil

theorem translate_padded_commentedText :
    Padded (lines bareText) (lines commentedText) ∧
    Format.kpp.translate commentedText "ozone" defaultTolerance =
      Format.kpp.translate bareText "ozone" defaultTolerance := by
  have h := translate_padded padded_commentedText "ozone" defaultTolerance
  exact ⟨padded_commentedText, h.2 commentedText (consists_lines commentedText)⟩

end AtmosChem.Kpp
