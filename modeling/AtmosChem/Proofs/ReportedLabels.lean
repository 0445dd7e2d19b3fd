import AtmosChem.Proofs.EquationNames
import AtmosChem.Proofs.SavedSettings
import AtmosChem.Proofs.SectionTexts
import AtmosChem.Proofs.WrittenFiles

/-!
# The report of unknown labels

The labels of the equations that gave no reaction are written into a file, a line for each.  A label
has no line feed, since it is written on a line itself (`newline_not_mem_of_mem_unknowns`).  So the
lines of the report tell the labels, each as often as it is there and in the same order.

There is one exception.  The last line gets its line feed only if the text is not empty, and a label
of KPP may be empty: that of a line that begins with `<>`.  If it is the only unknown label, the
report is the same as that of no labels at all (`endedLines_unknownsText`).

* `endedLines`: the lines of a text that end in a line feed.
* `Run.toList_unknownsText`: the text of a report.
* `Format.report_unknowns`: what the report of a text tells.
-/

namespace AtmosChem

open Text

/-! ### Lines that are ended -/

namespace Text

variable {ls : List (List Char)}

/-- The lines of a text that end in a line feed. -/
def endedLines (s : List Char) : List (List Char) := (s.splitOn '\n').dropLast

theorem endedLines_append_newline (s : List Char) : endedLines (s ++ ['\n']) = s.splitOn '\n' := by
  rw [endedLines, splitOn_append_cons, List.splitOn_nil, List.dropLast_concat]

theorem intercalate_append_newline (h : ls ≠ []) :
    ['\n'].intercalate ls ++ ['\n'] = unlines ls := by
  induction ls with
  | nil => exact absurd rfl h
  | cons line ls ih =>
    cases ls with
    | nil => simp [unlines]
    | cons next rest =>
      rw [List.intercalate_cons_cons, List.append_assoc, ih (List.cons_ne_nil next rest)]
      simp [unlines]

/-- **Lines without line feeds** are the ended lines of their text. -/
theorem endedLines_unlines (h : ∀ line ∈ ls, '\n' ∉ line) : endedLines (unlines ls) = ls := by
  by_cases hnil : ls = []
  · rw [hnil]
    rfl
  · rw [← intercalate_append_newline hnil, endedLines_append_newline,
      List.splitOn_intercalate '\n' h hnil]

end Text

/-! ### The text of a report -/

namespace Run

variable {labels : List String}

theorem intercalate_eq_empty_iff :
    "\n".intercalate labels = "" ↔ labels = [] ∨ labels = [""] := by
  match labels with
  | [] => simp
  | [label] => simp
  | label :: next :: rest =>
    -- between two labels there is a line feed
    rw [String.intercalate_cons_cons, ← String.toList_inj]
    simp

/-- **A report is a line for each label**, unless there is only one and it is empty. -/
theorem toList_unknownsText (labels : List String) :
    (unknownsText labels).toList =
      if labels = [""] then [] else unlines (labels.map String.toList) := by
  by_cases hone : labels = [""]
  · rw [if_pos hone, hone]
    rfl
  · rw [if_neg hone]
    by_cases hnil : labels = []
    · rw [hnil]
      rfl
    · have htext : "\n".intercalate labels ≠ "" :=
        mt intercalate_eq_empty_iff.1 (not_or.2 ⟨hnil, hone⟩)
      rw [unknownsText, if_neg htext, String.toList_append, String.toList_intercalate]
      exact intercalate_append_newline (by simpa using hnil)

/-- **A report is empty** if there are no labels, or only one that is empty itself. -/
theorem unknownsText_eq_empty_iff : unknownsText labels = "" ↔ labels = [] ∨ labels = [""] := by
  rw [← String.toList_inj, toList_unknownsText]
  by_cases hone : labels = [""]
  · simp [hone]
  · cases labels <;> simp [hone, unlines]

/-- **The lines of a report are its labels**, unless there is only one and it is empty. -/
theorem endedLines_unknownsText (h : ∀ label ∈ labels, '\n' ∉ label.toList) :
    endedLines (unknownsText labels).toList = labels.map String.toList ↔ labels ≠ [""] := by
  rw [toList_unknownsText]
  by_cases hone : labels = [""]
  · rw [hone]
    decide
  · rw [if_neg hone]
    exact iff_of_true (endedLines_unlines (List.forall_mem_map.2 h)) hone

/-- **The report is the third file** of a mechanism. -/
theorem readText_store {directory : String} {m : Mechanism} {t : FileTree}
    (h : (store directory m labels t).outcome = .ok ()) :
    (store directory m labels t).tree.readText (Path.join directory "unknowns.txt") =
      .ok (unknownsText labels) :=
  FileTree.readText_of_read (read_outputs h).2.2

end Run

/-! ### The labels of equations -/

theorem Contribution.label_of_mem_unknowns {c : Contribution} {s : String} (h : s ∈ c.unknowns) :
    c.label = s := by
  cases c with
  | reaction label law sides => exact absurd h List.not_mem_nil
  | pair label first second sides => exact absurd h List.not_mem_nil
  | rejected label => exact (List.mem_singleton.1 h).symm

theorem MakeUp.mem_labels {cs : List Contribution} {t : Translation} (h : MakeUp cs t) {s : String}
    (hs : s ∈ t.unknowns) : s ∈ cs.map Contribution.label := by
  rw [h.unknowns] at hs
  obtain ⟨c, hc, hs⟩ := List.mem_flatMap.1 hs
  exact List.mem_map.2 ⟨c, hc, Contribution.label_of_mem_unknowns hs⟩

theorem newline_not_mem_decimalText (n : Nat) : '\n' ∉ Decimal.decimalText n :=
  Mozart.not_mem_decimalText (by decide) n

namespace Kpp

theorem mem_of_cutLabel? {left label rest : List Char} (h : cutLabel? left = some (label, rest))
    {c : Char} (hc : c ∈ label) : c ∈ left := by
  -- whichever the brackets are, the label stands before the closing one
  have hcut : ∀ {bracket : Char} {p : Char → Bool},
      (cutAt bracket left).map (fun q => (trim (q.1.filter p), q.2)) = some (label, rest) →
        c ∈ left := by
    intro bracket p hmap
    obtain ⟨⟨before, after⟩, hq, heq⟩ := Option.map_eq_some_iff.1 hmap
    obtain ⟨rfl, -⟩ := Prod.mk.inj heq
    rw [eq_append_of_cutAt hq]
    exact List.mem_append_left _ (List.mem_filter.1 (mem_of_mem_trim hc)).1
  rw [cutLabel?] at h
  split at h
  · exact hcut h
  · split at h
    · exact hcut h
    · simp at h

theorem newline_not_mem_labelOf {line : List Char} (h : '\n' ∉ line) (index : Nat) :
    '\n' ∉ labelOf index line := by
  rw [labelOf]
  cases hcut : cutLabel? (before '=' line) with
  | none =>
    show '\n' ∉ 'R' :: Decimal.decimalText index
    rw [List.mem_cons, not_or]
    exact ⟨by decide, newline_not_mem_decimalText index⟩
  | some p => exact fun hc => h (mem_of_mem_before (mem_of_cutLabel? hcut hc))

/-- **Unknown labels of KPP** are those of lines. -/
theorem exists_labelOf_of_mem_unknowns {lines : List (List Char)} {t : Translation}
    (h : (translate lines).outcome = .ok t) {s : String} (hs : s ∈ t.unknowns) :
    ∃ p ∈ numbered lines, s = String.ofList (labelOf p.2 p.1) := by
  obtain ⟨cs, hlabels, -, hmake⟩ := exists_contributions h
  have hmem := hmake.mem_labels hs
  rw [hlabels] at hmem
  obtain ⟨p, hp, rfl⟩ := List.mem_map.1 hmem
  exact ⟨p, hp, rfl⟩

end Kpp

namespace Mozart

theorem labelAt_ne_nil (open? : Option (List Char)) (n : Nat) : labelAt open? n ≠ [] := by
  cases open? <;> simp [labelAt]

theorem newline_not_mem_labelAt {open? : Option (List Char)} (h : ∀ label ∈ open?, '\n' ∉ label)
    (n : Nat) : '\n' ∉ labelAt open? n := by
  cases open? with
  | none => simp [labelAt, newline_not_mem_decimalText]
  | some label => simp [labelAt, newline_not_mem_decimalText, h label rfl]

theorem exists_bracketLabel_of_mem_blocks {lines : List (List Char)} {b : LineBlock}
    (h : b ∈ blocks lines) : ∃ line ∈ lines, b.label = bracketLabel line := by
  induction lines with
  | nil => exact absurd h List.not_mem_nil
  | cons line rest ih =>
    cases ho : isOpening line with
    | true =>
      rw [blocks_cons_of_opening ho] at h
      rcases List.mem_cons.1 h with rfl | h
      · exact ⟨line, List.mem_cons_self, rfl⟩
      · obtain ⟨opening, hmem, hlabel⟩ := ih h
        exact ⟨opening, List.mem_cons_of_mem line hmem, hlabel⟩
    | false =>
      rw [blocks_cons_of_not_opening ho] at h
      obtain ⟨opening, hmem, hlabel⟩ := ih h
      exact ⟨opening, List.mem_cons_of_mem line hmem, hlabel⟩

theorem newline_not_mem_bracketLabel {line : List Char} (h : '\n' ∉ line) :
    '\n' ∉ bracketLabel line :=
  fun hc => h (List.mem_of_mem_tail (mem_of_mem_before (mem_of_mem_trim hc)))

/-- **Unknown labels of MOZART** are made of the label of a block, if there is one, and a place. -/
theorem exists_labelAt_of_mem_unknowns {lines : List (List Char)} {t : Translation}
    (h : (translate lines).outcome = .ok t) {s : String} (hs : s ∈ t.unknowns) :
    ∃ open? n, s = String.ofList (labelAt open? n) ∧
      ∀ label ∈ open?, ∃ line ∈ lines, label = bracketLabel (clean line) := by
  obtain ⟨es, cs, hes, -, -, hlabels, -, -, hmake⟩ := exists_contributions h
  have hmem := hmake.mem_labels hs
  rw [hlabels] at hmem
  obtain ⟨e, he, rfl⟩ := List.mem_map.1 hmem
  have hlabel : e.label ∈ lineLabels (lines.map clean) := by
    rw [← labels_collect hes]
    exact List.mem_map_of_mem he
  rcases List.mem_append.1 hlabel with hfirst | hblock
  · obtain ⟨n, -, hn⟩ := List.mem_map.1 hfirst
    exact ⟨none, n, by rw [hn], nofun⟩
  · obtain ⟨b, hb, hplace⟩ := List.mem_flatMap.1 hblock
    obtain ⟨n, -, hn⟩ := List.mem_map.1 hplace
    refine ⟨some b.label, n, by rw [hn], ?_⟩
    rintro label ⟨⟩
    obtain ⟨line, hline, hb⟩ := exists_bracketLabel_of_mem_blocks hb
    obtain ⟨raw, hraw, rfl⟩ := List.mem_map.1 hline
    exact ⟨raw, hraw, hb⟩

end Mozart

/-! ### What a report tells -/

namespace Format

/-- **An unknown label has no line feed**, as the line that it stands on. -/
theorem newline_not_mem_of_mem_unknowns {f : Format} {lines : List (List Char)} {t : Translation}
    (hlines : ∀ line ∈ lines, '\n' ∉ line) (h : (f.equations lines).outcome = .ok t) {s : String}
    (hs : s ∈ t.unknowns) : '\n' ∉ s.toList := by
  cases f with
  | kpp =>
    obtain ⟨p, hp, rfl⟩ := Kpp.exists_labelOf_of_mem_unknowns h hs
    have hline : p.1 ∈ lines := (List.mem_filter.1 (List.fst_mem_of_mem_zipIdx hp)).1
    rw [String.toList_ofList]
    exact Kpp.newline_not_mem_labelOf (hlines p.1 hline) p.2
  | mozart =>
    obtain ⟨open?, n, rfl, hopen⟩ := Mozart.exists_labelAt_of_mem_unknowns h hs
    rw [String.toList_ofList]
    refine Mozart.newline_not_mem_labelAt ?_ n
    intro label hlabel
    obtain ⟨line, hline, rfl⟩ := hopen label hlabel
    refine Mozart.newline_not_mem_bracketLabel ?_
    exact fun hc => hlines line hline (mem_of_mem_before (mem_of_mem_trim hc))

/-- **An empty label** is one of KPP: a line with nothing in its brackets. -/
theorem exists_labelOf_eq_nil {f : Format} {lines : List (List Char)} {t : Translation}
    (h : (f.equations lines).outcome = .ok t) (hs : "" ∈ t.unknowns) :
    f = .kpp ∧ ∃ p ∈ Kpp.numbered lines, Kpp.labelOf p.2 p.1 = [] := by
  cases f with
  | kpp =>
    obtain ⟨p, hp, hlabel⟩ := Kpp.exists_labelOf_of_mem_unknowns h hs
    exact ⟨rfl, p, hp, (String.ofList_injective hlabel).symm⟩
  | mozart =>
    obtain ⟨open?, n, hlabel, -⟩ := Mozart.exists_labelAt_of_mem_unknowns h hs
    exact absurd (String.ofList_injective hlabel).symm (Mozart.labelAt_ne_nil open? n)

theorem newline_not_mem_of_translate {f : Format} {text : List Char} {name : String}
    {tolerance : Float} {m : Mechanism} {labels : List String}
    (h : (f.translate text name tolerance).outcome = .ok (m, labels)) :
    ∀ label ∈ labels, '\n' ∉ label.toList := by
  obtain ⟨translation, hequations, -, rfl⟩ := exists_of_translate h
  intro label hlabel
  exact newline_not_mem_of_mem_unknowns (fun line => Section.newline_not_mem_of_mem_linesUnder)
    hequations hlabel

/-- **The report of unknown labels.**  If a text is translated and what it gives is stored, then the
lines that are ended in the report are the unknown labels, in their order and each as often as it is
there, if and only if they are not a single label that is empty.  The report is empty if there is no
unknown label, and in that one case.  Only KPP has empty labels: they are those of lines with
nothing in their brackets. -/
theorem report_unknowns {f : Format} {text : List Char} {name : String} {tolerance : Float}
    {m : Mechanism} {labels : List String}
    (h : (f.translate text name tolerance).outcome = .ok (m, labels)) :
    (∀ directory t, (Run.store directory m labels t).outcome = .ok () →
      ∃ report,
        (Run.store directory m labels t).tree.readText (Path.join directory "unknowns.txt") =
          .ok report ∧
        (endedLines report.toList = labels.map String.toList ↔ labels ≠ [""]) ∧
        (report = "" ↔ labels = [] ∨ labels = [""])) ∧
    ("" ∈ labels →
      f = .kpp ∧ ∃ p ∈ Kpp.numbered (f.equationLines text), Kpp.labelOf p.2 p.1 = []) := by
  obtain ⟨translation, hequations, -, rfl⟩ := exists_of_translate h
  refine ⟨?_, exists_labelOf_eq_nil hequations⟩
  intro directory t hstore
  exact ⟨Run.unknownsText translation.unknowns, Run.readText_store hstore,
    Run.endedLines_unknownsText (newline_not_mem_of_translate h), Run.unknownsText_eq_empty_iff⟩

/-- Three equations with unknown rates, two of which have nothing in their brackets. -/
def bareLabelsText : List Char :=
  "#EQUATIONS\n<> NO = O3 : f(1) ;\n<b> NO = O3 : f(1) ;\n{ } O3 = NO : f(1) ;".toList

theorem report_unknowns_bareLabels :
    (translate .kpp bareLabelsText "m" 1e-12).outcome = .ok (⟨"m", [], []⟩, ["", "b", ""]) ∧
    (Run.store "out" ⟨"m", [], []⟩ ["", "b", ""] FileTree.empty).outcome = .ok () ∧
    ∃ report,
      (Run.store "out" ⟨"m", [], []⟩ ["", "b", ""] FileTree.empty).tree.readText
        (Path.join "out" "unknowns.txt") = .ok report ∧
      endedLines report.toList = [[], ['b'], []] ∧ report ≠ "" := by
  have htranslate : (translate .kpp bareLabelsText "m" 1e-12).outcome =
      .ok (⟨"m", [], []⟩, ["", "b", ""]) := rfl
  have hok : (Run.store "out" ⟨"m", [], []⟩ ["", "b", ""] FileTree.empty).outcome.toOption.any
      (fun _ => true) = true := by decide +kernel
  obtain ⟨⟨⟩, hstore, -⟩ := exists_ok_of_any hok
  obtain ⟨report, hreport, hlines, hempty⟩ :=
    (report_unknowns htranslate).1 "out" FileTree.empty hstore
  refine ⟨htranslate, hstore, report, hreport, hlines.2 (by decide), ?_⟩
  exact mt hempty.1 (by decide)

/-- An equation with an unknown rate and nothing in its brackets. -/
def bareLabelText : List Char := "#EQUATIONS\n<> NO = O3 : f(1) ;".toList

/-- **A report may lose a label**: of a single label that is empty there is no line. -/
theorem not_forall_report_unknowns :
    ¬ ∀ (f : Format) text name tolerance m labels,
      (f.translate text name tolerance).outcome = .ok (m, labels) →
      ∀ directory t, (Run.store directory m labels t).outcome = .ok () →
        ∀ report,
          (Run.store directory m labels t).tree.readText (Path.join directory "unknowns.txt") =
            .ok report →
          endedLines report.toList = labels.map String.toList := by
  intro h
  have hok : (Run.store "out" ⟨"m", [], []⟩ [""] FileTree.empty).outcome.toOption.any
      (fun _ => true) = true := by decide +kernel
  obtain ⟨⟨⟩, hstore, -⟩ := exists_ok_of_any hok
  have hlines := h .kpp bareLabelText "m" 1e-12 ⟨"m", [], []⟩ [""] rfl "out" FileTree.empty hstore
    _ (Run.readText_store hstore)
  rw [Run.unknownsText_eq_empty_iff.2 (Or.inr rfl)] at hlines
  exact absurd hlines (by decide)

end Format

end AtmosChem
