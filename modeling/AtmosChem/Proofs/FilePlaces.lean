import AtmosChem.Files.Tree
import AtmosChem.Proofs.Cutting

/-!
# Places in a file tree

Where paths lead to while a tree changes.  Files are written and directories are made, but nothing
is ever taken away, and no directory turns into a file (`FileTree.Keeps`).  So a path that leads
somewhere goes on leading there (`Keeps.locate`).

The place of a path ends as the path does (`exists_of_locate`).  That is all that is needed to tell
two places apart, whatever directories they lie in (`ne_of_locate`).

A text that has been written to a path is what is read from there (`readText_of_write`).
-/

namespace AtmosChem

/-! ### Paths -/

namespace Path

theorem exists_splitOn_eq {c : Char} {s w : List Char} (hc : c ∉ w) (h : w <:+ s) :
    ∃ parts last, s.splitOn c = parts ++ [last] ∧ w <:+ last := by
  obtain ⟨t, rfl⟩ := h
  by_cases ht : c ∈ t.reverse
  · -- cut at the last separator
    obtain ⟨as, bs, hrev, hbs⟩ := List.eq_append_cons_of_mem ht
    have heq : t = bs.reverse ++ c :: as.reverse := by
      rw [← t.reverse_reverse, hrev]
      simp
    have hlast : c ∉ as.reverse ++ w := by simp [hbs, hc]
    refine ⟨bs.reverse.splitOn c, as.reverse ++ w, ?_, List.suffix_append _ _⟩
    rw [heq, List.append_assoc, List.cons_append, Text.splitOn_append_cons,
      Text.splitOn_of_not_mem hlast]
  · have hall : c ∉ t ++ w := by simpa [hc] using ht
    exact ⟨[], t ++ w, Text.splitOn_of_not_mem hall, List.suffix_append _ _⟩

/-- Whether a path ends in the given way, within its last name. -/
structure EndsIn (path : String) (w : List Char) : Prop where
  slash : '/' ∉ w
  long : 2 < w.length
  suffix : w <:+ path.toList

namespace EndsIn

variable {path : String} {w : List Char}

/-- The last name of a path ends as the path does. -/
theorem exists_parts_eq (h : EndsIn path w) :
    ∃ names last, parts path = names ++ [last] ∧ w <:+ last.toList := by
  have hrest : w <:+ (if isAbsolute path then path.toList.drop 1 else path.toList) := by
    have hpath := h.suffix
    split
    next habsolute =>
      cases hp : path.toList with
      | nil => simp [isAbsolute, hp] at habsolute
      | cons c rest =>
        have hc : c = '/' := by simpa [isAbsolute, hp] using habsolute
        rw [hp, hc] at hpath
        rcases List.suffix_cons_iff.1 hpath with rfl | hpath
        · exact absurd List.mem_cons_self h.slash
        · exact hpath
    next => exact hpath
  obtain ⟨names, last, hsplit, hlast⟩ := exists_splitOn_eq h.slash hrest
  refine ⟨names.map String.ofList, String.ofList last, ?_, by simpa using hlast⟩
  rw [parts, hsplit, List.map_append, List.map_singleton]

theorem dropSlashes_eq (h : EndsIn path w) : dropSlashes path = path := by
  obtain ⟨t, ht⟩ := h.suffix
  have hlong := h.long
  have hw : w.reverse ≠ [] := List.ne_nil_of_length_pos (by rw [List.length_reverse]; omega)
  obtain ⟨c, rest, hc⟩ := List.exists_cons_of_ne_nil hw
  have hne : (c == '/') = false := by
    rw [beq_eq_false_iff_ne]
    rintro rfl
    exact h.slash (List.mem_reverse.1 (hc ▸ List.mem_cons_self))
  rw [dropSlashes, ← ht, List.reverse_append, hc, List.cons_append, List.dropWhile_cons, hne]
  rw [if_neg (by decide), ← List.cons_append, ← hc, ← List.reverse_append, List.reverse_reverse, ht,
    String.ofList_toList]

/-- The path of a name ends as the name does. -/
theorem join {name : String} (h : EndsIn name w) (directory : String) :
    EndsIn (Path.join directory name) w := by
  refine ⟨h.slash, h.long, h.suffix.trans ?_⟩
  rw [Path.join]
  split
  · exact List.suffix_refl _
  · split
    · rw [String.toList_append]
      exact List.suffix_append _ _
    · rw [String.toList_append]
      exact List.suffix_append _ _

end EndsIn

end Path

namespace FileTree

/-! ### Nodes -/

theorem isAnchor_of_node? {t : FileTree} {l : Location} (h : t.node? l ≠ some .directory) :
    isAnchor l = false := by
  rw [node?] at h
  split at h
  · exact absurd rfl h
  next hl => exact Bool.eq_false_iff.2 hl

theorem node?_put {t : FileTree} {l : Location} (h : t.node? l ≠ some .directory) (n : Node)
    (m : Location) : node? ⟨put l n t.entries⟩ m = if m = l then some n else t.node? m := by
  rw [node?]
  by_cases hm : m = l
  · rw [if_pos hm, hm, isAnchor_of_node? h, lookup_put_self]
    rfl
  · rw [if_neg hm, node?, lookup_put_of_ne hm]

theorem put_of_lookup {l : Location} {n : Node} {es : List (Location × Node)}
    (h : es.lookup l = some n) : put l n es = es := by
  induction es with
  | nil => simp at h
  | cons e es ih =>
    obtain ⟨m, k⟩ := e
    by_cases hm : m = l
    · subst hm
      simp only [List.lookup_cons, beq_self_eq_true, Option.some.injEq] at h
      simp [put, h]
    · have hne : (l == m) = false := beq_eq_false_iff_ne.2 (Ne.symm hm)
      simp only [List.lookup_cons, hne] at h
      simp [put, hm, ih h]

/-- A node that is put where it is changes nothing. -/
theorem put_of_node? {t : FileTree} {l : Location} {n : Node} (hl : isAnchor l = false)
    (h : t.node? l = some n) : (⟨put l n t.entries⟩ : FileTree) = t := by
  rw [node?, hl] at h
  rw [put_of_lookup h]

/-! ### Finding places -/

theorem enter_eq_ok_iff {t : FileTree} {l m : Location} {name : String} :
    t.enter l name = .ok m ↔
      t.node? l = some .directory ∧ name.utf8ByteSize ≤ nameLimit ∧ m = child l name := by
  rw [enter, checkDirectory]
  cases hl : t.node? l with
  | none => simp [bind, Except.bind]
  | some n =>
    cases n with
    | file content => simp [bind, Except.bind]
    | directory =>
      by_cases hname : nameLimit < name.utf8ByteSize
      · simp [bind, Except.bind, hname, Nat.not_le.2 hname]
      · simp [bind, Except.bind, hname, Nat.not_lt.1 hname, eq_comm]

theorem walk_concat_eq_ok_iff {t : FileTree} {path name : String} {names : List String}
    {m : Location} : t.walk path (names ++ [name]) = .ok m ↔
      ∃ l, t.walk path names = .ok l ∧ t.enter l name = .ok m := by
  rw [walk, List.foldlM_append]
  show ((t.walk path names).bind fun l => (t.enter l name).bind .ok) = .ok m ↔ _
  cases t.walk path names with
  | error e => simp [Except.bind]
  | ok l => cases h : t.enter l name <;> simp [Except.bind, h]

theorem locate_eq_ok_iff {t : FileTree} {path : String} {l : Location} :
    t.locate path = .ok l ↔ checkPath path = .ok () ∧ t.walk path (Path.parts path) = .ok l := by
  rw [locate]
  cases checkPath path <;> simp [bind, Except.bind]

/-- **The place of a path** ends as the path does. -/
theorem exists_of_locate {t : FileTree} {path : String} {l : Location} {w : List Char}
    (hpath : Path.EndsIn path w) (h : t.locate path = .ok l) :
    ∃ directory last, l = directory ++ [last] ∧ w <:+ last.toList := by
  obtain ⟨names, last, hparts, hlast⟩ := hpath.exists_parts_eq
  obtain ⟨-, hwalk⟩ := locate_eq_ok_iff.1 h
  rw [hparts] at hwalk
  obtain ⟨d, -, henter⟩ := walk_concat_eq_ok_iff.1 hwalk
  obtain ⟨-, -, rfl⟩ := enter_eq_ok_iff.1 henter
  -- the last name is too long for nothing, a dot or two dots
  have hne : ∀ s : String, s.toList.length ≤ 2 → last ≠ s := by
    rintro s hs rfl
    have hlength := hlast.length_le
    have hlong := hpath.long
    omega
  refine ⟨d, last, ?_, hlast⟩
  rw [child, if_neg (not_or.2 ⟨hne "" (by decide), hne "." (by decide)⟩),
    if_neg (hne ".." (by decide))]

/-- Whether neither of two texts ends in the other. -/
def Differ (w w' : List Char) : Prop := ¬w <:+ w' ∧ ¬w' <:+ w

instance (w w' : List Char) : Decidable (Differ w w') :=
  inferInstanceAs (Decidable (¬w <:+ w' ∧ ¬w' <:+ w))

/-- **Paths that end differently** lead to different places, be it in different trees. -/
theorem ne_of_locate {t t' : FileTree} {path path' : String} {l l' : Location} {w w' : List Char}
    (hdiffer : Differ w w') (hpath : Path.EndsIn path w) (hpath' : Path.EndsIn path' w')
    (h : t.locate path = .ok l) (h' : t'.locate path' = .ok l') : l ≠ l' := by
  obtain ⟨d, last, rfl, hlast⟩ := exists_of_locate hpath h
  obtain ⟨d', last', rfl, hlast'⟩ := exists_of_locate hpath' h'
  intro heq
  obtain ⟨-, hsingle⟩ := List.append_inj' heq rfl
  rw [List.singleton_inj.1 hsingle] at hlast
  rcases List.suffix_or_suffix_of_suffix hlast hlast' with hs | hs
  · exact hdiffer.1 hs
  · exact hdiffer.2 hs

/-! ### What changes keep -/

/-- Whether all directories of a tree are directories of another one. -/
def Keeps (t t' : FileTree) : Prop :=
  ∀ l, t.node? l = some .directory → t'.node? l = some .directory

theorem Keeps.refl (t : FileTree) : Keeps t t := fun _ h => h

theorem Keeps.trans {t t' t'' : FileTree} (h : Keeps t t') (h' : Keeps t' t'') : Keeps t t'' :=
  fun l hl => h' l (h l hl)

theorem Keeps.enter {t t' : FileTree} (h : Keeps t t') {l m : Location} {name : String}
    (hm : t.enter l name = .ok m) : t'.enter l name = .ok m := by
  obtain ⟨hl, hname, hchild⟩ := enter_eq_ok_iff.1 hm
  exact enter_eq_ok_iff.2 ⟨h l hl, hname, hchild⟩

theorem Keeps.foldlM_enter {t t' : FileTree} (h : Keeps t t') {names : List String}
    {l m : Location} (hm : names.foldlM t.enter l = .ok m) : names.foldlM t'.enter l = .ok m := by
  induction names generalizing l with
  | nil => exact hm
  | cons name names ih =>
    rw [List.foldlM_cons] at hm ⊢
    cases hl : t.enter l name with
    | error e => simp [hl, bind, Except.bind] at hm
    | ok k =>
      rw [hl] at hm
      rw [h.enter hl]
      exact ih hm

/-- **A path that leads somewhere goes on leading there.** -/
theorem Keeps.locate {t t' : FileTree} (h : Keeps t t') {path : String} {l : Location}
    (hl : t.locate path = .ok l) : t'.locate path = .ok l := by
  obtain ⟨hcheck, hwalk⟩ := locate_eq_ok_iff.1 hl
  exact locate_eq_ok_iff.2 ⟨hcheck, h.foldlM_enter hwalk⟩

theorem keeps_put {t : FileTree} {l : Location} (h : t.node? l ≠ some .directory) (n : Node) :
    Keeps t ⟨put l n t.entries⟩ := by
  intro m hm
  have hne : m ≠ l := fun heq => h (heq ▸ hm)
  rw [node?_put h, if_neg hne, hm]

/-! ### Reading and writing -/

theorem read_eq_ok_iff {t : FileTree} {path : String} {content : ByteArray} :
    t.read path = .ok content ↔ ∃ l, t.locate path = .ok l ∧ t.node? l = some (.file content) := by
  rw [read]
  cases t.locate path with
  | error e => simp [bind, Except.bind]
  | ok l =>
    simp only [bind, Except.bind, Except.ok.injEq, exists_eq_left']
    cases t.node? l with
    | none => simp
    | some n => cases n <;> simp

theorem Keeps.read_of_node? {t t' : FileTree} (h : Keeps t t') {path : String} {l : Location}
    {content : ByteArray} (hl : t.locate path = .ok l) (hnode : t'.node? l = some (.file content)) :
    t'.read path = .ok content :=
  read_eq_ok_iff.2 ⟨l, h.locate hl, hnode⟩

theorem checkPath_ne_empty {path : String} (h : checkPath path = .ok ()) : path ≠ "" := by
  rintro rfl
  simp [checkPath] at h

/-- **Writing** puts a file where the path leads to, if there is no directory. -/
theorem write_eq_ok_iff {t t' : FileTree} {path : String} {content : ByteArray} :
    t.write path content = .ok t' ↔ Path.dropSlashes path = path ∧
      ∃ l, t.locate path = .ok l ∧ t.node? l ≠ some .directory ∧
        t' = ⟨put l (.file content) t.entries⟩ := by
  rw [write, locate]
  cases hcheck : checkPath path with
  | error e => simp [bind, Except.bind]
  | ok u =>
    by_cases hplain : Path.dropSlashes path = path
    · have hne := checkPath_ne_empty hcheck
      simp only [hplain, hne, bind, Except.bind, if_false, ne_eq, not_true_eq_false, true_and]
      cases t.walk path (Path.parts path) with
      | error e => simp
      | ok l =>
        simp only [Except.ok.injEq, exists_eq_left']
        split
        next hnode => simp [hnode]
        next hnode =>
          have hfree : t.node? l ≠ some .directory := hnode
          simp only [hfree, not_false_eq_true, true_and, Except.ok.injEq]
          exact eq_comm
    · simp only [hplain, ne_eq, not_false_eq_true, if_true, false_and, iff_false]
      -- a slash at the end: whatever else is wrong, this is
      split
      · simp [bind, Except.bind]
      · cases t.walk path (Path.parts (Path.dropSlashes path)).dropLast with
        | error e => simp [bind, Except.bind]
        | ok l => cases h : t.checkDirectory l <;> simp [bind, Except.bind, h]

theorem keeps_of_write {t t' : FileTree} {path : String} {content : ByteArray}
    (h : t.write path content = .ok t') : Keeps t t' := by
  obtain ⟨-, l, -, hnode, rfl⟩ := write_eq_ok_iff.1 h
  exact keeps_put hnode _

/-- **Writing what is there already** changes nothing. -/
theorem write_of_read {t : FileTree} {path : String} {content : ByteArray}
    (hplain : Path.dropSlashes path = path) (h : t.read path = .ok content) :
    t.write path content = .ok t := by
  obtain ⟨l, hl, hnode⟩ := read_eq_ok_iff.1 h
  have hfile : t.node? l ≠ some .directory := by simp [hnode]
  exact write_eq_ok_iff.2
    ⟨hplain, l, hl, hfile, (put_of_node? (isAnchor_of_node? hfile) hnode).symm⟩

/-! ### Texts in files -/

theorem fromUTF8?_toUTF8 (s : String) : String.fromUTF8? s.toUTF8 = some s := by
  rw [String.fromUTF8?, String.toUTF8_eq_toByteArray, dif_pos s.isValidUTF8]
  rfl

theorem readText_of_read {t : FileTree} {path text : String}
    (h : t.read path = .ok text.toUTF8) : t.readText path = .ok text := by
  rw [readText, h]
  simp only [bind, Except.bind, fromUTF8?_toUTF8]

/-- **What has been written can be read.** -/
theorem readText_of_write {t t' : FileTree} {path text : String}
    (h : t.write path text.toUTF8 = .ok t') : t'.readText path = .ok text := by
  have hkeeps := keeps_of_write h
  obtain ⟨-, l, hl, hfree, rfl⟩ := write_eq_ok_iff.1 h
  refine readText_of_read (hkeeps.read_of_node? hl ?_)
  rw [node?_put hfree, if_pos rfl]

end FileTree

end AtmosChem
