import AtmosChem.Proofs.ReportedLabels

/-!
# Runs and their files

What a run does is confined to three files, and these tell what it reports.  Of the unknown labels
the third one has a line for each; only if there is a single one and it is empty, the file is empty.

* `Run.perform_confined`: what a run leaves as it is, and what its files hold.
-/

namespace AtmosChem

namespace Run

open FileTree Text

/-- **A run is confined.**  If the settings, the source or its translation fails, the tree is as it
was.  In any case a file is as it was unless one of the three paths leads to it.  And if the run
succeeds, the three files hold what it reports: the two documents of its mechanism, and a line for
each of its unknown labels, unless there is only one and it is empty. -/
theorem perform_confined (s : Settings) (t : FileTree) :
    (∀ e, (s.check = .error e ∨
        s.check = .ok () ∧
          (Source.readSource t s.inputDirectory s.inputName s.format.suffixes = .error e ∨
            ∃ text,
              Source.readSource t s.inputDirectory s.inputName s.format.suffixes = .ok text ∧
              (s.format.translate text s.mechanismName s.tolerance).outcome = .error e)) →
      (perform s t).tree = t ∧ (perform s t).written = [] ∧
        (perform s t).report.outcome = .error e) ∧
    (∀ l content,
      (∀ name ∈ outputNames,
        (perform s t).tree.locate (Path.join (outputDirectory s) name) ≠ .ok l) →
      ((perform s t).tree.node? l = some (.file content) ↔ t.node? l = some (.file content))) ∧
    (∀ r, (perform s t).report.outcome = .ok r →
      r.directory = outputDirectory s ∧ r.mechanism.name = s.mechanismName ∧
      (perform s t).tree.read (Path.join r.directory "species.json") =
        .ok r.mechanism.speciesText.toUTF8 ∧
      (perform s t).tree.read (Path.join r.directory "reactions.json") =
        .ok r.mechanism.reactionsText.toUTF8 ∧
      ∃ labels : String,
        (perform s t).tree.read (Path.join r.directory "unknowns.txt") = .ok labels.toUTF8 ∧
        labels.toList =
          (if r.unknowns = [""] then [] else unlines (r.unknowns.map String.toList)) ∧
        (endedLines labels.toList = r.unknowns.map String.toList ↔ r.unknowns ≠ [""])) := by
  refine ⟨?_, ?_, ?_⟩
  · intro e h
    have hprepare : (prepare s t).outcome = .error e := by
      rw [outcome_prepare]
      rcases h with hcheck | ⟨hcheck, hsource | ⟨text, hsource, htranslate⟩⟩
      · rw [hcheck]
        rfl
      · rw [hcheck, hsource]
        rfl
      · rw [hcheck, hsource]
        exact htranslate
    rw [perform_of_error hprepare]
    exact ⟨rfl, rfl, rfl⟩
  · intro l content h
    cases hp : (prepare s t).outcome with
    | error e => rw [perform_of_error hp]
    | ok p =>
      obtain ⟨m, unknowns⟩ := p
      rw [perform_of_ok hp] at h ⊢
      exact node?_store_file_iff h content
  · intro r h
    obtain ⟨hprepare, hdirectory, hstore⟩ := exists_of_perform h
    obtain ⟨text, -, htranslate⟩ := exists_of_prepare hprepare
    obtain ⟨hspecies, hreactions, hunknowns⟩ := read_outputs hstore
    rw [perform_of_ok hprepare, hdirectory]
    exact ⟨rfl, name_of_prepare hprepare, hspecies, hreactions, unknownsText r.unknowns, hunknowns,
      toList_unknownsText r.unknowns,
      endedLines_unknownsText (Format.newline_not_mem_of_translate htranslate)⟩

/-- Settings for a mechanism in the working directory. -/
def ozoneSettings : Settings := { Settings.initial with inputName := "ozone" }

/-- A mechanism with an equation whose rate is unknown, and a file where its documents go. -/
def ozoneTree : FileTree := ⟨[
  (["ozone.eqn"], .file "#EQUATIONS\nO + O2 = O3 : 6.0e-34 ;\nO3 = O : f(1) ;".toUTF8),
  (["ozone"], .directory),
  (["ozone", "notes.txt"], .file "old".toUTF8)]⟩

theorem perform_confined_ozone :
    (perform { ozoneSettings with inputName := "" } ozoneTree).tree = ozoneTree ∧
    (perform ozoneSettings ozoneTree).tree.node? ["ozone", "notes.txt"] =
      some (.file "old".toUTF8) ∧
    ∃ r, (perform ozoneSettings ozoneTree).report.outcome = .ok r ∧ r.unknowns = ["R2"] ∧
      (perform ozoneSettings ozoneTree).tree.read "./ozone/species.json" =
        .ok r.mechanism.speciesText.toUTF8 ∧
      (perform ozoneSettings ozoneTree).tree.read "./ozone/reactions.json" =
        .ok r.mechanism.reactionsText.toUTF8 ∧
      (perform ozoneSettings ozoneTree).tree.read "./ozone/unknowns.txt" = .ok "R2\n".toUTF8 := by
  have hfailed := (perform_confined { ozoneSettings with inputName := "" } ozoneTree).1
    (.settings .noInputName) (Or.inl rfl)
  have hplaces : ∀ name ∈ outputNames, ((perform ozoneSettings ozoneTree).tree.locate
      (Path.join (outputDirectory ozoneSettings) name)).toOption ≠ some ["ozone", "notes.txt"] := by
    decide +kernel
  have hok : (perform ozoneSettings ozoneTree).report.outcome.toOption.any
      (fun r => r.directory == "./ozone" && r.unknowns == ["R2"]) = true := by decide +kernel
  obtain ⟨r, hr, hreported⟩ := exists_ok_of_any hok
  rw [Bool.and_eq_true, beq_iff_eq, beq_iff_eq] at hreported
  obtain ⟨-, hother, hreport⟩ := perform_confined ozoneSettings ozoneTree
  obtain ⟨-, -, hspecies, hreactions, labels, hlabels, htext, -⟩ := hreport r hr
  rw [hreported.1] at hspecies hreactions hlabels
  have hR2 : labels = "R2\n" := by
    rw [← String.toList_inj, htext, hreported.2]
    rfl
  refine ⟨hfailed.1, ?_, r, hr, hreported.2, hspecies, hreactions, hR2 ▸ hlabels⟩
  refine (hother ["ozone", "notes.txt"] "old".toUTF8 ?_).2 rfl
  intro name hname h
  exact hplaces name hname (by rw [h]; rfl)

end Run

end AtmosChem
