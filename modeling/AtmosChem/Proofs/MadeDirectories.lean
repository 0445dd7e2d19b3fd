import AtmosChem.Proofs.FilePlaces

/-!
# Directories made

Making a directory with all that are missing above it is a number of single steps, each of them a
directory made at a free place (`FileTree.Grows`).  No file is changed by that and none is listed
that was not there.  If it succeeds there is a directory at the path, and making it once more
changes nothing (`makeDirectories_again`).

The path may end in slashes.  They are dropped before a directory is made, but not when it is looked
for (`locate_dropSlashes_iff`).
-/

namespace AtmosChem

namespace Path

theorem splitOn_append_slashes (s : List Char) (n : Nat) :
    (s ++ List.replicate n '/').splitOn '/' = s.splitOn '/' ++ List.replicate n [] := by
  induction n with
  | zero => simp
  | succ n ih =>
    rw [List.replicate_succ', ← List.append_assoc, Text.splitOn_append_cons, ih,
      List.replicate_succ', List.append_assoc]
    rfl

theorem exists_eq_dropSlashes (path : String) :
    ∃ n, path.toList = (dropSlashes path).toList ++ List.replicate n '/' := by
  have hslashes : ∀ c ∈ path.toList.reverse.takeWhile (· == '/'), c = '/' := fun c hc =>
    beq_iff_eq.1 (List.all_eq_true.1 List.all_takeWhile c hc)
  have hsplit := congrArg List.reverse
    (List.takeWhile_append_dropWhile (p := (· == '/')) (l := path.toList.reverse))
  rw [List.reverse_append, List.reverse_reverse, List.eq_replicate_of_mem hslashes,
    List.reverse_replicate] at hsplit
  exact ⟨_, by rw [dropSlashes, String.toList_ofList]; exact hsplit.symm⟩

variable {path : String}

theorem isAbsolute_dropSlashes (h : dropSlashes path ≠ "") :
    isAbsolute (dropSlashes path) = isAbsolute path := by
  obtain ⟨n, hn⟩ := exists_eq_dropSlashes path
  rw [isAbsolute, isAbsolute, hn]
  cases hq : (dropSlashes path).toList with
  | nil => exact absurd (String.toList_eq_nil_iff.1 hq) h
  | cons c s => rfl

/-- The slashes at the end of a path are names of nothing. -/
theorem exists_parts_eq_dropSlashes (h : dropSlashes path ≠ "") :
    ∃ n, parts path = parts (dropSlashes path) ++ List.replicate n "" := by
  obtain ⟨n, hn⟩ := exists_eq_dropSlashes path
  refine ⟨n, ?_⟩
  rw [parts, parts, isAbsolute_dropSlashes h, hn]
  have hlength : 1 ≤ (dropSlashes path).toList.length :=
    List.length_pos_iff.2 fun hnil => h (String.toList_eq_nil_iff.1 hnil)
  split
  · rw [List.drop_append_of_le_length hlength, splitOn_append_slashes, List.map_append,
      List.map_replicate]
  · rw [splitOn_append_slashes, List.map_append, List.map_replicate]

end Path

namespace FileTree

/-! ### Slashes at the end -/

theorem checkPath_eq_ok_iff {path : String} : checkPath path = .ok () ↔
    '\x00' ∉ path.toList ∧ path ≠ "" ∧ path.utf8ByteSize < pathLimit := by
  rw [checkPath]
  by_cases hnull : '\x00' ∈ path.toList
  · simp [hnull]
  · by_cases hempty : path = ""
    · simp [hempty]
    · by_cases hlong : pathLimit ≤ path.utf8ByteSize
      · simp [hnull, hempty, hlong]
      · simp [hnull, hempty, hlong, Nat.not_le.1 hlong]

theorem checkPath_dropSlashes {path : String} (h : checkPath path = .ok ())
    (hplain : Path.dropSlashes path ≠ "") : checkPath (Path.dropSlashes path) = .ok () := by
  obtain ⟨hnull, -, hshort⟩ := checkPath_eq_ok_iff.1 h
  obtain ⟨n, hn⟩ := Path.exists_eq_dropSlashes path
  have hpath : path = Path.dropSlashes path ++ String.ofList (List.replicate n '/') := by
    rw [← String.toList_inj, hn, String.toList_append, String.toList_ofList]
  refine checkPath_eq_ok_iff.2 ⟨?_, hplain, ?_⟩
  · rw [hn, List.mem_append, not_or] at hnull
    exact hnull.1
  · rw [hpath, String.utf8ByteSize_append] at hshort
    exact Nat.lt_of_le_of_lt (Nat.le_add_right _ _) hshort

theorem enter_nothing {t : FileTree} {l : Location} (h : t.node? l = some .directory) :
    t.enter l "" = .ok l :=
  enter_eq_ok_iff.2 ⟨h, by decide, rfl⟩

theorem foldlM_enter_nothing {t : FileTree} {l : Location} (h : t.node? l = some .directory)
    (n : Nat) : (List.replicate n "").foldlM t.enter l = .ok l := by
  induction n with
  | zero => rfl
  | succ n ih =>
    rw [List.replicate_succ, List.foldlM_cons, enter_nothing h]
    exact ih

theorem eq_of_foldlM_enter_nothing {t : FileTree} {l m : Location} {n : Nat}
    (h : (List.replicate n "").foldlM t.enter l = .ok m) : m = l := by
  cases n with
  | zero => exact (Except.ok.inj h).symm
  | succ n =>
    have hl : t.node? l = some .directory := by
      rw [List.replicate_succ, List.foldlM_cons] at h
      cases henter : t.enter l "" with
      | error e => simp [henter, bind, Except.bind] at h
      | ok k => exact (enter_eq_ok_iff.1 henter).1
    rw [foldlM_enter_nothing hl] at h
    exact (Except.ok.inj h).symm

/-- **Slashes at the end** make no difference to where a directory is found. -/
theorem locate_dropSlashes_iff {t : FileTree} {path : String} {l : Location}
    (hcheck : checkPath path = .ok ()) (hplain : Path.dropSlashes path ≠ "")
    (hl : t.node? l = some .directory) :
    t.locate path = .ok l ↔ t.locate (Path.dropSlashes path) = .ok l := by
  obtain ⟨n, hn⟩ := Path.exists_parts_eq_dropSlashes hplain
  rw [locate_eq_ok_iff, locate_eq_ok_iff, and_iff_right hcheck,
    and_iff_right (checkPath_dropSlashes hcheck hplain), walk, walk,
    Path.isAbsolute_dropSlashes hplain, hn, List.foldlM_append]
  cases h : (Path.parts (Path.dropSlashes path)).foldlM t.enter
      (if Path.isAbsolute path = true then ["/"] else []) with
  | error e => simp [bind, Except.bind]
  | ok m =>
    show (List.replicate n "").foldlM t.enter m = .ok l ↔ _
    constructor
    · intro hm
      rw [eq_of_foldlM_enter_nothing hm]
    · intro hm
      rw [Except.ok.inj hm, foldlM_enter_nothing hl]

theorem makeDirectory_eq_ok_iff {t t' : FileTree} {path : String} :
    t.makeDirectory path = .ok t' ↔ checkPath path = .ok () ∧ Path.dropSlashes path ≠ "" ∧
      ∃ l, t.locate (Path.dropSlashes path) = .ok l ∧ t.node? l = none ∧
        t' = ⟨put l .directory t.entries⟩ := by
  rw [makeDirectory]
  cases checkPath path with
  | error e => simp [bind, Except.bind]
  | ok u =>
    by_cases hplain : Path.dropSlashes path = ""
    · simp [hplain, bind, Except.bind]
    · cases t.locate (Path.dropSlashes path) with
      | error e => simp [hplain, bind, Except.bind]
      | ok l =>
        cases hl : t.node? l with
        | none => simp [hplain, bind, Except.bind, hl, eq_comm]
        | some n => simp [hplain, bind, Except.bind, hl]

/-! ### Making directories -/

/-- **One level**: either a directory is made at the path, once those above it are there if they
have to be, or nothing is done that far and success means that there is a directory already. -/
theorem exists_of_makeEach (t : FileTree) (path : String) (above : List String) :
    ∃ t₁, (t₁ = t ∨ t₁ = (t.makeEach above).1) ∧
      (t₁.makeDirectory path = .ok (t.makeEach (path :: above)).1 ∨
        (t.makeEach (path :: above)).1 = t₁ ∧
          ((t.makeEach (path :: above)).2 = .ok () → t₁.isDirectory path = true)) := by
  rw [makeEach]
  split
  next t' hmade => exact ⟨t, .inl rfl, .inl hmade⟩
  next =>
    split
    next t' e habove => exact ⟨t', .inr (by rw [habove]), .inr ⟨rfl, by simp⟩⟩
    next t' habove =>
      refine ⟨t', .inr (by rw [habove]), ?_⟩
      split
      next t'' hmade => exact .inl hmade
      next => exact .inr ⟨rfl, by simp⟩
  next => exact ⟨t, .inl rfl, .inr ⟨rfl, by simp⟩⟩

/-- One tree after another, with directories made at free places in between. -/
inductive Grows : FileTree → FileTree → Prop
  | refl (t : FileTree) : Grows t t
  | tail {t t' : FileTree} (before : Grows t t') {l : Location} (hfree : t'.node? l = none) :
      Grows t ⟨put l .directory t'.entries⟩

namespace Grows

variable {t t' t'' : FileTree}

theorem trans (h : Grows t t') (h' : Grows t' t'') : Grows t t'' := by
  induction h' with
  | refl => exact h
  | tail _ hfree ih => exact .tail ih hfree

theorem of_makeDirectory {path : String} (h : t.makeDirectory path = .ok t') : Grows t t' := by
  obtain ⟨-, -, l, -, hfree, rfl⟩ := makeDirectory_eq_ok_iff.1 h
  exact .tail (.refl t) hfree

theorem keeps (h : Grows t t') : Keeps t t' := by
  induction h with
  | refl => exact .refl t
  | tail _ hfree ih => exact ih.trans (keeps_put (by simp [hfree]) .directory)

/-- **Making directories changes no file.** -/
theorem node?_file_iff (h : Grows t t') (l : Location) (content : ByteArray) :
    t'.node? l = some (.file content) ↔ t.node? l = some (.file content) := by
  induction h with
  | refl => rfl
  | @tail t' _ m hfree ih =>
    rw [node?_put (by simp [hfree]), ← ih]
    by_cases hl : l = m
    · subst hl
      simp [hfree]
    · rw [if_neg hl]

theorem children_put_directory {l : Location} (hfree : t.node? l = none) (directory : Location) :
    children ⟨put l .directory t.entries⟩ directory = t.children directory := by
  have hlookup : t.entries.lookup l = none := by
    have hl : isAnchor l = false := isAnchor_of_node? (t := t) (by simp [hfree])
    rwa [node?, hl] at hfree
  rw [children, children]
  generalize t.entries = es at hlookup
  induction es with
  | nil => simp [put]
  | cons e es ih =>
    obtain ⟨m, n⟩ := e
    have hm : m ≠ l := by
      rintro rfl
      simp at hlookup
    have hne : (l == m) = false := beq_eq_false_iff_ne.2 (Ne.symm hm)
    rw [List.lookup_cons, hne] at hlookup
    rw [put, if_neg hm, List.filterMap_cons, List.filterMap_cons, ih hlookup]

/-- **Making directories lists no new file.** -/
theorem children_eq (h : Grows t t') (directory : Location) :
    t'.children directory = t.children directory := by
  induction h with
  | refl => rfl
  | tail _ hfree ih => rw [children_put_directory hfree, ih]

theorem makeEach (t : FileTree) (paths : List String) : Grows t (t.makeEach paths).1 := by
  induction paths with
  | nil => exact .refl t
  | cons path above ih =>
    obtain ⟨t₁, hbefore, hlast⟩ := exists_of_makeEach t path above
    have hgrows : Grows t t₁ := by
      rcases hbefore with rfl | rfl
      · exact .refl _
      · exact ih
    rcases hlast with hmade | ⟨hsame, -⟩
    · exact hgrows.trans (of_makeDirectory hmade)
    · rwa [hsame]

theorem makeDirectories (t : FileTree) (path : String) : Grows t (t.makeDirectories path).1 := by
  rw [FileTree.makeDirectories]
  split
  · exact .refl t
  · exact makeEach t _

end Grows

/-! ### Making them again -/

theorem isDirectory_iff {t : FileTree} {path : String} : t.isDirectory path = true ↔
    ∃ l, t.locate path = .ok l ∧ t.node? l = some .directory := by
  rw [isDirectory]
  cases t.locate path <;> simp

theorem Keeps.isDirectory {t t' : FileTree} (h : Keeps t t') {path : String}
    (hpath : t.isDirectory path = true) : t'.isDirectory path = true := by
  obtain ⟨l, hl, hnode⟩ := isDirectory_iff.1 hpath
  exact isDirectory_iff.2 ⟨l, h.locate hl, h l hnode⟩

theorem isDirectory_of_makeDirectory {t t' : FileTree} {path : String}
    (h : t.makeDirectory path = .ok t') : t'.isDirectory path = true := by
  have hkeeps := (Grows.of_makeDirectory h).keeps
  obtain ⟨hcheck, hplain, l, hl, hfree, rfl⟩ := makeDirectory_eq_ok_iff.1 h
  have hnode : node? ⟨put l .directory t.entries⟩ l = some .directory := by
    rw [node?_put (by simp [hfree]), if_pos rfl]
  exact isDirectory_iff.2
    ⟨l, (locate_dropSlashes_iff hcheck hplain hnode).2 (hkeeps.locate hl), hnode⟩

theorem makeDirectory_of_isDirectory {t : FileTree} {path : String}
    (h : t.isDirectory path = true) : t.makeDirectory path = .error .exists := by
  obtain ⟨l, hl, hnode⟩ := isDirectory_iff.1 h
  obtain ⟨hcheck, -⟩ := locate_eq_ok_iff.1 hl
  rw [makeDirectory, hcheck]
  by_cases hplain : Path.dropSlashes path = ""
  · simp [hplain, bind, Except.bind]
  · rw [locate_dropSlashes_iff hcheck hplain hnode] at hl
    simp [hplain, hl, hnode, bind, Except.bind]

theorem isDirectory_of_makeEach {t t' : FileTree} {path : String} {above : List String}
    (h : t.makeEach (path :: above) = (t', .ok ())) : t'.isDirectory path = true := by
  obtain ⟨t₁, -, hlast⟩ := exists_of_makeEach t path above
  rw [h] at hlast
  rcases hlast with hmade | ⟨rfl, hthere⟩
  · exact isDirectory_of_makeDirectory hmade
  · exact hthere rfl

/-- **A directory that has been made** is there, and making it again changes nothing. -/
theorem makeDirectories_again {t t' t'' : FileTree} {path : String}
    (h : t.makeDirectories path = (t', .ok ())) (hkeeps : Keeps t' t'') :
    t''.makeDirectories path = (t'', .ok ()) := by
  rw [makeDirectories] at h ⊢
  split at h
  next hempty => rw [if_pos hempty]
  next hempty =>
    have hthere := hkeeps.isDirectory (isDirectory_of_makeEach h)
    rw [if_neg hempty, makeEach, makeDirectory_of_isDirectory hthere, hthere]
    rfl

end FileTree

end AtmosChem
