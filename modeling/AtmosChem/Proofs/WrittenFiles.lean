import AtmosChem.Proofs.MadeDirectories
import AtmosChem.Proofs.Outcomes
import AtmosChem.Run

/-!
# Files written

What a run does to the file tree.  It writes files into one directory, one after the other, after
everything that can be wrong with its settings and its source has been found
(`Run.outcome_prepare`).  So a run that fails before it writes leaves the tree as it is; no run
changes any file but its three (`Run.node?_store_file_iff`); and after a run that succeeds these
three are read as they were written (`Run.read_store`).
-/

namespace AtmosChem

namespace Run

open FileTree

/-! ### Files one after the other -/

/-- Whether names lead to different places, in whatever directory. -/
def Apart (names : List String) : Prop :=
  (∀ n ∈ names, '/' ∉ n.toList ∧ 2 < n.toList.length) ∧
    names.Pairwise fun n n' => Differ n.toList n'.toList

instance (names : List String) : Decidable (Apart names) :=
  inferInstanceAs (Decidable ((∀ n ∈ names, '/' ∉ n.toList ∧ 2 < n.toList.length) ∧
    names.Pairwise fun n n' => Differ n.toList n'.toList))

theorem Apart.endsIn_join {names : List String} (h : Apart names) {name : String}
    (hname : name ∈ names) (directory : String) :
    Path.EndsIn (Path.join directory name) name.toList :=
  Path.EndsIn.join ⟨(h.1 name hname).1, (h.1 name hname).2, List.suffix_refl _⟩ directory

theorem Apart.of_cons {name : String} {names : List String} (h : Apart (name :: names)) :
    Apart names :=
  ⟨fun n hn => h.1 n (List.mem_cons_of_mem name hn), (List.pairwise_cons.1 h.2).2⟩

variable {directory name text : String} {t t' : FileTree} {files : List (String × String)}

theorem writeEach_of_error {fault : FileFault}
    (h : t.write (Path.join directory name) text.toUTF8 = .error fault) :
    writeEach directory t ((name, text) :: files) =
      ⟨t, [], .error (.file (Path.join directory name) fault)⟩ := by
  rw [writeEach.eq_def]
  simp only [h]

theorem writeEach_of_ok (h : t.write (Path.join directory name) text.toUTF8 = .ok t') :
    writeEach directory t ((name, text) :: files) =
      ⟨(writeEach directory t' files).tree,
        Path.join directory name :: (writeEach directory t' files).written,
        (writeEach directory t' files).outcome⟩ := by
  rw [writeEach.eq_def]
  simp only [h]

theorem keeps_writeEach (directory : String) (t : FileTree) (files : List (String × String)) :
    Keeps t (writeEach directory t files).tree := by
  induction files generalizing t with
  | nil => exact .refl t
  | cons f files ih =>
    obtain ⟨name, text⟩ := f
    cases h : t.write (Path.join directory name) text.toUTF8 with
    | error fault =>
      rw [writeEach_of_error h]
      exact .refl t
    | ok t' =>
      rw [writeEach_of_ok h]
      exact (keeps_of_write h).trans (ih t')

/-- **Other places are as they were.** -/
theorem node?_writeEach {l : Location}
    (h : ∀ f ∈ files, (writeEach directory t files).tree.locate (Path.join directory f.1) ≠ .ok l) :
    (writeEach directory t files).tree.node? l = t.node? l := by
  induction files generalizing t with
  | nil => rfl
  | cons f files ih =>
    obtain ⟨name, text⟩ := f
    rw [List.forall_mem_cons] at h
    cases hwrite : t.write (Path.join directory name) text.toUTF8 with
    | error fault => rw [writeEach_of_error hwrite]
    | ok t' =>
      rw [writeEach_of_ok hwrite] at h ⊢
      have hkeeps := (keeps_of_write hwrite).trans (keeps_writeEach directory t' files)
      obtain ⟨-, m, hm, hnode, rfl⟩ := write_eq_ok_iff.1 hwrite
      have hne : l ≠ m := by
        rintro rfl
        exact h.1 (hkeeps.locate hm)
      rw [ih h.2, node?_put hnode, if_neg hne]

/-- **Files that have all been written** are read as they were written. -/
theorem read_writeEach (hapart : Apart (files.map Prod.fst))
    (hok : (writeEach directory t files).outcome = .ok ()) :
    ∀ f ∈ files,
      (writeEach directory t files).tree.read (Path.join directory f.1) = .ok f.2.toUTF8 := by
  induction files generalizing t with
  | nil => exact nofun
  | cons f files ih =>
    obtain ⟨name, text⟩ := f
    rw [List.map_cons] at hapart
    cases hwrite : t.write (Path.join directory name) text.toUTF8 with
    | error fault => simp [writeEach_of_error hwrite] at hok
    | ok t' =>
      rw [writeEach_of_ok hwrite] at hok ⊢
      rw [List.forall_mem_cons]
      refine ⟨?_, ih hapart.of_cons hok⟩
      have hkeeps := keeps_writeEach directory t' files
      have hmade := keeps_of_write hwrite
      obtain ⟨-, l, hl, hnode, ht'⟩ := write_eq_ok_iff.1 hwrite
      -- the files after this one go to other places
      have hothers : ∀ f ∈ files,
          (writeEach directory t' files).tree.locate (Path.join directory f.1) ≠ .ok l := by
        intro f hf hlocate
        have hmem : f.1 ∈ files.map Prod.fst := List.mem_map_of_mem hf
        exact ne_of_locate ((List.pairwise_cons.1 hapart.2).1 f.1 hmem)
          (hapart.endsIn_join List.mem_cons_self directory)
          (hapart.of_cons.endsIn_join hmem directory) hl hlocate rfl
      refine hkeeps.read_of_node? (hmade.locate hl) ?_
      rw [node?_writeEach hothers, ht', node?_put hnode, if_pos rfl]

theorem written_writeEach (hok : (writeEach directory t files).outcome = .ok ()) :
    (writeEach directory t files).written = files.map fun f => Path.join directory f.1 := by
  induction files generalizing t with
  | nil => rfl
  | cons f files ih =>
    obtain ⟨name, text⟩ := f
    cases hwrite : t.write (Path.join directory name) text.toUTF8 with
    | error fault => simp [writeEach_of_error hwrite] at hok
    | ok t' =>
      rw [writeEach_of_ok hwrite] at hok ⊢
      rw [List.map_cons, ih hok]

/-! ### The files of a mechanism -/

theorem map_fst_outputs (m : Mechanism) (unknowns : List String) :
    (outputs m unknowns).map Prod.fst = outputNames := rfl

theorem apart_outputNames : Apart outputNames := by decide

variable {m : Mechanism} {unknowns : List String}

theorem apart_outputs : Apart ((outputs m unknowns).map Prod.fst) := apart_outputNames

/-- **Storing a mechanism** makes directories and then writes its files, or none of them. -/
theorem exists_grows_store (directory : String) (m : Mechanism) (unknowns : List String)
    (t : FileTree) :
    ∃ t' files, Grows t t' ∧ (files = [] ∨ files = outputs m unknowns) ∧
      (store directory m unknowns t).tree = (writeEach directory t' files).tree := by
  have hmade := Grows.makeDirectories t directory
  rw [store]
  split
  next t' fault h =>
    rw [h] at hmade
    exact ⟨t', [], hmade, .inl rfl, rfl⟩
  next t' h =>
    rw [h] at hmade
    exact ⟨t', outputs m unknowns, hmade, .inr rfl, rfl⟩

theorem keeps_store (directory : String) (m : Mechanism) (unknowns : List String) (t : FileTree) :
    Keeps t (store directory m unknowns t).tree := by
  obtain ⟨t', files, hgrows, -, htree⟩ := exists_grows_store directory m unknowns t
  rw [htree]
  exact hgrows.keeps.trans (keeps_writeEach directory t' files)

/-- No file is changed but those of the mechanism. -/
theorem node?_store_file_iff {l : Location}
    (h : ∀ name ∈ outputNames,
      (store directory m unknowns t).tree.locate (Path.join directory name) ≠ .ok l)
    (content : ByteArray) :
    (store directory m unknowns t).tree.node? l = some (.file content) ↔
      t.node? l = some (.file content) := by
  obtain ⟨t', files, hgrows, hfiles, htree⟩ := exists_grows_store directory m unknowns t
  rw [htree] at h ⊢
  rw [node?_writeEach, hgrows.node?_file_iff]
  intro f hf
  rcases hfiles with rfl | rfl
  · exact absurd hf List.not_mem_nil
  · rw [← map_fst_outputs m unknowns, List.forall_mem_map] at h
    exact h f hf

theorem exists_of_store (hok : (store directory m unknowns t).outcome = .ok ()) :
    ∃ t', t.makeDirectories directory = (t', .ok ()) ∧
      store directory m unknowns t = writeEach directory t' (outputs m unknowns) := by
  rw [store] at hok ⊢
  cases hmade : t.makeDirectories directory with
  | mk t' outcome =>
    cases outcome with
    | error fault => simp [hmade] at hok
    | ok u => exact ⟨t', rfl, rfl⟩

/-- **A mechanism that has been stored** is read from its files. -/
theorem read_store (hok : (store directory m unknowns t).outcome = .ok ()) :
    ∀ f ∈ outputs m unknowns,
      (store directory m unknowns t).tree.read (Path.join directory f.1) = .ok f.2.toUTF8 := by
  obtain ⟨t', -, heq⟩ := exists_of_store hok
  rw [heq] at hok ⊢
  exact read_writeEach apart_outputs hok

theorem read_outputs (hok : (store directory m unknowns t).outcome = .ok ()) :
    (store directory m unknowns t).tree.read (Path.join directory "species.json") =
      .ok m.speciesText.toUTF8 ∧
    (store directory m unknowns t).tree.read (Path.join directory "reactions.json") =
      .ok m.reactionsText.toUTF8 ∧
    (store directory m unknowns t).tree.read (Path.join directory "unknowns.txt") =
      .ok (unknownsText unknowns).toUTF8 := by
  have hread := read_store hok
  have hspecies := hread ("species.json", m.speciesText) (by simp [outputs, outputNames])
  have hreactions := hread ("reactions.json", m.reactionsText) (by simp [outputs, outputNames])
  have hunknowns := hread ("unknowns.txt", unknownsText unknowns) (by simp [outputs, outputNames])
  exact ⟨hspecies, hreactions, hunknowns⟩

/-! ### Runs -/

/-- What can be wrong before anything is written: the settings, the source, or its translation. -/
theorem outcome_prepare (s : Settings) (t : FileTree) :
    (prepare s t).outcome = s.check.bind fun _ =>
      (Source.readSource t s.inputDirectory s.inputName s.format.suffixes).bind fun text =>
        (s.format.translate text s.mechanismName s.tolerance).outcome := by
  simp only [prepare, Logged.outcome_bind, Logged.outcome_ofExcept, Logged.outcome_give,
    Logged.outcome_pure]
  cases s.check with
  | error e => rfl
  | ok u =>
    cases Source.readSource t s.inputDirectory s.inputName s.format.suffixes with
    | error e => rfl
    | ok text => cases h : (s.format.translate text s.mechanismName s.tolerance).outcome <;>
        simp [h, bind, Except.bind]

/-- **A mechanism that has been prepared** is the translation of its source. -/
theorem exists_of_prepare {s : Settings} (h : (prepare s t).outcome = .ok (m, unknowns)) :
    ∃ text, Source.readSource t s.inputDirectory s.inputName s.format.suffixes = .ok text ∧
      (s.format.translate text s.mechanismName s.tolerance).outcome = .ok (m, unknowns) := by
  rw [outcome_prepare] at h
  obtain ⟨-, -, h⟩ := exists_of_bind h
  exact exists_of_bind h

theorem name_of_prepare {s : Settings} (h : (prepare s t).outcome = .ok (m, unknowns)) :
    m.name = s.mechanismName := by
  obtain ⟨text, -, htranslate⟩ := exists_of_prepare h
  obtain ⟨u, -, rfl, -⟩ := Format.exists_of_translate htranslate
  rfl

theorem perform_of_error {s : Settings} {e : Failure} (h : (prepare s t).outcome = .error e) :
    perform s t = ⟨t, [], ⟨(prepare s t).notices, .error e⟩⟩ := by
  rw [perform]
  simp only [h]

/-- The directory that a run writes into. -/
def outputDirectory (s : Settings) : String := Path.join s.outputDirectory s.mechanismName

theorem perform_of_ok {s : Settings} (h : (prepare s t).outcome = .ok (m, unknowns)) :
    perform s t =
      ⟨(store (outputDirectory s) m unknowns t).tree,
        (store (outputDirectory s) m unknowns t).written,
        ⟨(prepare s t).notices,
          (store (outputDirectory s) m unknowns t).outcome.map fun _ =>
            ⟨m, unknowns, outputDirectory s⟩⟩⟩ := by
  rw [perform]
  simp only [h, name_of_prepare h]
  rfl

/-- **A run that has succeeded** has prepared and stored what it reports. -/
theorem exists_of_perform {s : Settings} {r : Report} (h : (perform s t).report.outcome = .ok r) :
    (prepare s t).outcome = .ok (r.mechanism, r.unknowns) ∧ r.directory = outputDirectory s ∧
      (store (outputDirectory s) r.mechanism r.unknowns t).outcome = .ok () := by
  cases hp : (prepare s t).outcome with
  | error e => simp [perform_of_error hp] at h
  | ok p =>
    obtain ⟨m, unknowns⟩ := p
    rw [perform_of_ok hp] at h
    obtain ⟨u, hs, rfl⟩ := exists_of_map h
    exact ⟨rfl, rfl, hs⟩

end Run

end AtmosChem
