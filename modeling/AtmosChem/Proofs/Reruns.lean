import AtmosChem.Proofs.ConfinedRuns

/-!
# Runs made again

A run that has succeeded comes to the same end if it is made again, and leaves everything as it is
(`Run.perform_again`).  Whatever the directories are, nothing that a run has written is taken for a
source by the next one: the names of its files end in other ways than those of sources.  So the next
run finds the sources that the first one has found (`Source.select_append`), reads the same in them,
and writes into its files what is there already.
-/

namespace AtmosChem

/-! ### Listings -/

namespace FileTree

theorem eq_of_nameIn? {directory l : Location} {name : String}
    (h : nameIn? directory l = some name) : l = directory ++ [name] := by
  rw [nameIn?] at h
  split at h
  next hdirectory =>
    obtain ⟨before, rfl⟩ := List.getLast?_eq_some_iff.1 h
    rw [List.dropLast_concat] at hdirectory
    rw [hdirectory]
  next => exact absurd h (by simp)

/-- **A file that is written** is listed last, if it is new. -/
theorem exists_children_put {t : FileTree} {l : Location} (h : t.node? l ≠ some .directory)
    (content : ByteArray) (directory : Location) :
    ∃ extra, children ⟨put l (.file content) t.entries⟩ directory = t.children directory ++ extra ∧
      ∀ name ∈ extra, l = directory ++ [name] := by
  have hlookup : t.entries.lookup l ≠ some .directory := by
    rwa [node?, isAnchor_of_node? h] at h
  rw [children, children]
  generalize t.entries = es at hlookup
  induction es with
  | nil =>
    refine ⟨(nameIn? directory l).toList, ?_, ?_⟩
    · cases hname : nameIn? directory l <;> simp [put, hname]
    · intro name hname
      exact eq_of_nameIn? (Option.mem_toList.1 hname)
  | cons e es ih =>
    obtain ⟨m, n⟩ := e
    by_cases hm : m = l
    · subst hm
      cases n with
      | directory => simp at hlookup
      | file old =>
        refine ⟨[], ?_, by simp⟩
        rw [List.append_nil, put, if_pos rfl]
        rfl
    · have hne : (l == m) = false := beq_eq_false_iff_ne.2 (Ne.symm hm)
      rw [List.lookup_cons, hne] at hlookup
      obtain ⟨extra, heq, hextra⟩ := ih hlookup
      refine ⟨extra, ?_, hextra⟩
      rw [put, if_neg hm, List.filterMap_cons, List.filterMap_cons, heq]
      split <;> rfl

end FileTree

/-! ### Sources -/

namespace Source

open FileTree

theorem pairwise_sorted (names : List String) : (sorted names).Pairwise fun a b => a ≤ b := by
  have hsorted : (sorted names).Pairwise fun a b => (!decide (b < a)) = true := by
    refine List.pairwise_mergeSort ?_ ?_ names
    · intro a b c hab hbc
      simp only [Bool.not_eq_true', decide_eq_false_iff_not, String.not_lt] at hab hbc ⊢
      exact String.le_trans hab hbc
    · intro a b
      simp only [Bool.or_eq_true, Bool.not_eq_true', decide_eq_false_iff_not, String.not_lt]
      exact String.le_total a b
  refine hsorted.imp ?_
  intro a b hab
  rwa [Bool.not_eq_true', decide_eq_false_iff_not, String.not_lt] at hab

/-- There is one order of names. -/
theorem sorted_eq {names names' : List String} (h : names.Perm names')
    (hordered : names'.Pairwise fun a b => a ≤ b) : sorted names = names' :=
  ((List.mergeSort_perm _ _).trans h).eq_of_pairwise (fun _ _ _ _ => String.le_antisymm)
    (pairwise_sorted names) hordered

theorem sorted_congr {names names' : List String} (h : names.Perm names') :
    sorted names = sorted names' :=
  sorted_eq (h.trans (List.mergeSort_perm _ _).symm) (pairwise_sorted names')

/-- Names can be selected before they are sorted. -/
theorem matching_sorted (name suffix : String) (names : List String) :
    matching name suffix (sorted names) = sorted (matching name suffix names) :=
  (sorted_eq ((List.mergeSort_perm _ _).symm.filter _) ((pairwise_sorted names).filter _)).symm

/-- Names that end in another way make no difference to what is selected. -/
theorem matching_sorted_append {name suffix : String} {names extra : List String}
    (h : ∀ n ∈ extra, ¬suffix.toList <:+ n.toList) :
    matching name suffix (sorted (names ++ extra)) = matching name suffix (sorted names) := by
  have hextra : matching name suffix extra = [] := by
    rw [matching, List.filter_eq_nil_iff]
    intro n hn
    simp [h n hn]
  have happend : matching name suffix (names ++ extra) =
      matching name suffix names ++ matching name suffix extra := List.filter_append ..
  rw [matching_sorted, matching_sorted, happend, hextra, List.append_nil]

theorem select_append {name : String} {suffixes names extra : List String}
    (h : ∀ n ∈ extra, ∀ suffix ∈ suffixes, ¬suffix.toList <:+ n.toList) :
    select name suffixes (names ++ extra) = select name suffixes names := by
  rw [select, select, List.flatMap_def, List.flatMap_def, List.map_congr_left]
  intro suffix hsuffix
  exact matching_sorted_append fun n hn => h n hn suffix hsuffix

theorem exists_suffix_of_mem_select {name n : String} {suffixes names : List String}
    (h : n ∈ select name suffixes names) : ∃ suffix ∈ suffixes, suffix.toList <:+ n.toList := by
  obtain ⟨suffix, hsuffix, hn⟩ := List.mem_flatMap.1 h
  have hends := (Bool.and_eq_true_iff.1 (List.mem_filter.1 hn).2).2
  exact ⟨suffix, hsuffix, List.isSuffixOf_iff_suffix.1 hends⟩

variable {t t' : FileTree} {directory name : String} {suffixes : List String}

theorem findFiles_eq_ok_iff {paths : List String} :
    findFiles t directory name suffixes = .ok paths ↔
      ∃ l, t.locate directory = .ok l ∧ t.node? l = some .directory ∧
        select name suffixes (listed t directory l) ≠ [] ∧
        paths = (select name suffixes (listed t directory l)).map (Path.join directory) := by
  rw [findFiles]
  cases t.locate directory with
  | error e => simp
  | ok l =>
    simp only [Except.ok.injEq, exists_eq_left']
    by_cases hl : t.node? l = some .directory
    · by_cases hnone : select name suffixes (listed t directory l) = []
      · simp [hl, hnone]
      · simp only [hl, hnone, ne_eq, not_true_eq_false, if_false, not_false_eq_true, true_and,
          Except.ok.injEq]
        exact eq_comm
    · simp [hl]

theorem fileLines_of_read {path : String} {ls : List (List Char)}
    (hread : ∀ content, t.read path = .ok content → t'.read path = .ok content)
    (h : fileLines t path = .ok ls) : fileLines t' path = .ok ls := by
  rw [fileLines, readText] at h ⊢
  cases hcontent : t.read path with
  | error fault => simp [hcontent, bind, Except.bind] at h
  | ok content =>
    rw [hcontent] at h
    rw [hread content hcontent]
    exact h

theorem mapM_fileLines_of_read {paths : List String} {files : List (List (List Char))}
    (hread : ∀ path ∈ paths, ∀ content, t.read path = .ok content → t'.read path = .ok content)
    (h : paths.mapM (fileLines t) = .ok files) : paths.mapM (fileLines t') = .ok files := by
  induction paths generalizing files with
  | nil => exact h
  | cons path paths ih =>
    rw [List.forall_mem_cons] at hread
    rw [List.mapM_cons] at h ⊢
    obtain ⟨ls, hls, h⟩ := exists_of_bind h
    obtain ⟨rest, hrest, h⟩ := exists_of_bind h
    rw [fileLines_of_read hread.1 hls, ih hread.2 hrest]
    exact h

theorem fileLinesAll_of_read {paths : List String} {ls : List (List Char)}
    (hread : ∀ path ∈ paths, ∀ content, t.read path = .ok content → t'.read path = .ok content)
    (h : fileLinesAll t paths = .ok ls) : fileLinesAll t' paths = .ok ls := by
  obtain ⟨files, hfiles, h⟩ := exists_of_bind h
  show (paths.mapM (fileLines t')).bind (fun files => .ok files.flatten) = _
  rw [mapM_fileLines_of_read hread hfiles]
  exact h

/-- **A source is read as before** in a tree that has the same directories, lists the same sources
and has the same in them. -/
theorem readSource_of_same {text : List Char} (hkeeps : Keeps t t')
    (hselect : ∀ l, select name suffixes (listed t' directory l) =
      select name suffixes (listed t directory l))
    (hread : ∀ suffix ∈ suffixes, ∀ path, Path.EndsIn path suffix.toList →
      ∀ content, t.read path = .ok content → t'.read path = .ok content)
    (hsuffixes : ∀ suffix ∈ suffixes, '/' ∉ suffix.toList ∧ 2 < suffix.toList.length)
    (h : readSource t directory name suffixes = .ok text) :
    readSource t' directory name suffixes = .ok text := by
  obtain ⟨paths, hpaths, h⟩ := exists_of_bind h
  obtain ⟨ls, hls, h⟩ := exists_of_bind h
  obtain ⟨l, hl, hdirectory, hsome, rfl⟩ := findFiles_eq_ok_iff.1 hpaths
  have hpaths' : findFiles t' directory name suffixes =
      .ok ((select name suffixes (listed t directory l)).map (Path.join directory)) :=
    findFiles_eq_ok_iff.2
      ⟨l, hkeeps.locate hl, hkeeps l hdirectory, by rwa [hselect l], by rw [hselect l]⟩
  have hsources : ∀ path ∈ (select name suffixes (listed t directory l)).map (Path.join directory),
      ∀ content, t.read path = .ok content → t'.read path = .ok content := by
    intro path hpath
    obtain ⟨n, hn, rfl⟩ := List.mem_map.1 hpath
    obtain ⟨suffix, hsuffix, hends⟩ := exists_suffix_of_mem_select hn
    obtain ⟨hslash, hlong⟩ := hsuffixes suffix hsuffix
    exact hread suffix hsuffix _ (Path.EndsIn.join ⟨hslash, hlong, hends⟩ directory)
  show (findFiles t' directory name suffixes).bind (fun paths =>
    (fileLinesAll t' paths).bind fun ls => .ok (List.intercalate ['\n'] ls)) = _
  rw [hpaths']
  show (fileLinesAll t' _).bind _ = _
  rw [fileLinesAll_of_read hsources hls]
  rw [hls] at h
  exact h

end Source

/-! ### Runs -/

namespace Run

open FileTree

/-- No name of a file that a run writes ends as a source does. -/
theorem suffixes_apart (f : Format) : ∀ suffix ∈ f.suffixes,
    '/' ∉ suffix.toList ∧ 2 < suffix.toList.length ∧
      ∀ name ∈ outputNames, Differ suffix.toList name.toList := by
  cases f <;> decide

variable {directory : String} {t : FileTree} {m : Mechanism} {unknowns : List String}

/-- **The files that are written** are listed last, each under its own name or under one that ends
in it. -/
theorem exists_children_writeEach {files : List (String × String)}
    (hapart : Apart (files.map Prod.fst)) (l : Location) :
    ∃ extra, (writeEach directory t files).tree.children l = t.children l ++ extra ∧
      ∀ n ∈ extra, ∃ f ∈ files, f.1.toList <:+ n.toList := by
  induction files generalizing t with
  | nil => exact ⟨[], (List.append_nil _).symm, nofun⟩
  | cons f files ih =>
    obtain ⟨name, text⟩ := f
    rw [List.map_cons] at hapart
    cases hwrite : t.write (Path.join directory name) text.toUTF8 with
    | error fault =>
      rw [writeEach_of_error hwrite]
      exact ⟨[], (List.append_nil _).symm, nofun⟩
    | ok t' =>
      rw [writeEach_of_ok hwrite]
      obtain ⟨-, k, hk, hnode, ht'⟩ := write_eq_ok_iff.1 hwrite
      obtain ⟨first, hfirst, hnames⟩ := exists_children_put hnode text.toUTF8 l
      obtain ⟨rest, hrest, hends⟩ := ih (t := t') hapart.of_cons
      rw [← ht'] at hfirst
      refine ⟨first ++ rest, by rw [hrest, hfirst, List.append_assoc], ?_⟩
      intro n hn
      rcases List.mem_append.1 hn with hn | hn
      · obtain ⟨d, last, heq, hlast⟩ :=
          exists_of_locate (hapart.endsIn_join List.mem_cons_self directory) hk
        rw [hnames n hn] at heq
        obtain ⟨-, hsingle⟩ := List.append_inj' heq rfl
        rw [← List.singleton_inj.1 hsingle] at hlast
        exact ⟨(name, text), List.mem_cons_self, hlast⟩
      · obtain ⟨f, hf, hsuffix⟩ := hends n hn
        exact ⟨f, List.mem_cons_of_mem _ hf, hsuffix⟩

theorem select_store (f : Format) (inputDirectory name : String) (l : Location) :
    Source.select name f.suffixes
        (Source.listed (store directory m unknowns t).tree inputDirectory l) =
      Source.select name f.suffixes (Source.listed t inputDirectory l) := by
  obtain ⟨t', files, hgrows, hfiles, htree⟩ := exists_grows_store directory m unknowns t
  rw [htree, Source.listed, Source.listed, ← hgrows.children_eq l]
  rcases hfiles with rfl | rfl
  · rfl
  · have hlisted : ∃ extra, (writeEach directory t' (outputs m unknowns)).tree.children l =
        t'.children l ++ extra ∧ ∀ n ∈ extra, ∃ f ∈ outputs m unknowns, f.1.toList <:+ n.toList :=
      exists_children_writeEach apart_outputs l
    obtain ⟨extra, heq, hextra⟩ := hlisted
    rw [heq, List.filter_append, Source.select_append]
    intro n hn suffix hsuffix hends
    obtain ⟨f, hf, hname⟩ := hextra n (List.mem_filter.1 hn).1
    have hmem : f.1 ∈ outputNames := map_fst_outputs m unknowns ▸ List.mem_map_of_mem hf
    obtain ⟨-, -, hdiffer⟩ := suffixes_apart _ suffix hsuffix
    rcases List.suffix_or_suffix_of_suffix hends hname with hs | hs
    · exact (hdiffer f.1 hmem).1 hs
    · exact (hdiffer f.1 hmem).2 hs

theorem read_source_store (f : Format) : ∀ suffix ∈ f.suffixes, ∀ path,
    Path.EndsIn path suffix.toList → ∀ content, t.read path = .ok content →
      (store directory m unknowns t).tree.read path = .ok content := by
  intro suffix hsuffix path hpath content hread
  have hkeeps := keeps_store directory m unknowns t
  obtain ⟨l, hl, hnode⟩ := read_eq_ok_iff.1 hread
  refine hkeeps.read_of_node? hl ((node?_store_file_iff ?_ content).2 hnode)
  intro name hname hlocate
  obtain ⟨-, -, hdiffer⟩ := suffixes_apart f suffix hsuffix
  exact ne_of_locate (hdiffer name hname) hpath (apart_outputNames.endsIn_join hname directory)
    hl hlocate rfl

/-- **What a run stores** is no source of the next one. -/
theorem readSource_store (f : Format) {inputDirectory name : String} {text : List Char}
    (h : Source.readSource t inputDirectory name f.suffixes = .ok text) :
    Source.readSource (store directory m unknowns t).tree inputDirectory name f.suffixes =
      .ok text := by
  refine Source.readSource_of_same (keeps_store directory m unknowns t) (select_store f inputDirectory name)
    (read_source_store f) ?_ h
  intro suffix hsuffix
  obtain ⟨hslash, hlong, -⟩ := suffixes_apart f suffix hsuffix
  exact ⟨hslash, hlong⟩

theorem prepare_eq_of_readSource {s : Settings} {t' : FileTree}
    (h : Source.readSource t' s.inputDirectory s.inputName s.format.suffixes =
      Source.readSource t s.inputDirectory s.inputName s.format.suffixes) :
    prepare s t' = prepare s t := by
  rw [prepare, prepare, h]

/-- Writing what is there already changes nothing, file after file. -/
theorem writeEach_of_read {files : List (String × String)} (hapart : Apart (files.map Prod.fst))
    (h : ∀ f ∈ files, t.read (Path.join directory f.1) = .ok f.2.toUTF8) :
    writeEach directory t files =
      ⟨t, files.map fun f => Path.join directory f.1, .ok ()⟩ := by
  induction files with
  | nil => rfl
  | cons f files ih =>
    obtain ⟨name, text⟩ := f
    rw [List.map_cons] at hapart
    rw [List.forall_mem_cons] at h
    have hplain := (hapart.endsIn_join List.mem_cons_self directory).dropSlashes_eq
    rw [writeEach_of_ok (write_of_read hplain h.1), ih hapart.of_cons h.2, List.map_cons]

/-- **Storing a mechanism again** changes nothing. -/
theorem store_again (hok : (store directory m unknowns t).outcome = .ok ()) :
    store directory m unknowns (store directory m unknowns t).tree =
      store directory m unknowns t := by
  have hread := read_store hok
  obtain ⟨t', hmade, heq⟩ := exists_of_store hok
  rw [heq] at hok hread ⊢
  have hkeeps := keeps_writeEach directory t' (outputs m unknowns)
  have hwritten := written_writeEach hok
  rw [store, makeDirectories_again hmade hkeeps]
  show writeEach directory _ (outputs m unknowns) = _
  rw [writeEach_of_read apart_outputs hread, ← hwritten, ← hok]

/-- **A run made again** comes to the same end as the run that has succeeded before it: the same
report, the same notices, and the tree as it is. -/
theorem perform_again {s : Settings} {r : Report} (h : (perform s t).report.outcome = .ok r) :
    perform s (perform s t).tree = perform s t := by
  obtain ⟨hprepare, -, hstore⟩ := exists_of_perform h
  have htree : (perform s t).tree =
      (store (outputDirectory s) r.mechanism r.unknowns t).tree := by
    rw [perform_of_ok hprepare]
  obtain ⟨text, htext, -⟩ := exists_of_prepare hprepare
  have hsame : prepare s (perform s t).tree = prepare s t := by
    refine prepare_eq_of_readSource ?_
    rw [htree, htext]
    exact readSource_store s.format htext
  have hprepare' : (prepare s (perform s t).tree).outcome = .ok (r.mechanism, r.unknowns) := by
    rw [hsame, hprepare]
  rw [perform_of_ok hprepare', hsame, htree, store_again hstore, ← perform_of_ok hprepare]

/-- Settings for a mechanism whose documents go into the directory of its sources. -/
def inPlaceSettings : Settings := { ozoneSettings with mechanism := "." }

theorem perform_again_inPlace :
    ∃ r, (perform inPlaceSettings ozoneTree).report.outcome = .ok r ∧
      perform inPlaceSettings (perform inPlaceSettings ozoneTree).tree =
        perform inPlaceSettings ozoneTree := by
  have hok : (perform inPlaceSettings ozoneTree).report.outcome.toOption.any (fun _ => true) =
      true := by decide +kernel
  obtain ⟨r, hr, -⟩ := exists_ok_of_any hok
  exact ⟨r, hr, perform_again hr⟩

end Run

end AtmosChem
