import AtmosChem.Proofs.WrittenFiles
import AtmosChem.Proofs.WrittenLines

/-!
# Proper file trees

A tree is given by its entries, and not every list of entries is one: a place could be listed twice,
or lie in no directory.  `FileTree.Proper` says what a tree is, and nothing that changes a tree takes
it away: a path leads to a directory, or to a plain name in a directory (`Proper.of_locate`), and
only there something new is put.

* `FileTree.Proper`: distinct places, each a plain name in a directory.
* `FileTree.Proper.write`, `FileTree.Proper.makeDirectories`, `FileTree.Proper.add`: it is kept.
* `FileTree.proper_of_added`: it holds if places have been added one after the other.
* `Run.proper_perform`: a run keeps it.
* `FileTree.Proper.mem_entries_iff`: what is at a place is what is listed there.
* `FileTree.locate_join_iff`: a name in a directory is found by its path.
-/

namespace AtmosChem

/-! ### Names -/

namespace Path

/-- A name as an entry of a directory can have it. -/
structure PlainName (name : String) : Prop where
  special : name ∉ ["", ".", ".."]
  slash : '/' ∉ name.toList

theorem slash_not_mem_of_mem_parts {path name : String} (h : name ∈ parts path) :
    '/' ∉ name.toList := by
  obtain ⟨s, hs, rfl⟩ := List.mem_map.1 h
  rw [String.toList_ofList]
  exact Text.not_mem_of_mem_splitOn hs

theorem exists_parts_eq_concat (path : String) :
    ∃ names name, parts path = names ++ [name] ∧ '/' ∉ name.toList := by
  have hne : parts path ≠ [] := by
    rw [parts, ne_eq, List.map_eq_nil_iff]
    exact List.splitOn_ne_nil _ _
  obtain ⟨names, name, hparts⟩ := (List.eq_nil_or_concat (parts path)).resolve_left hne
  rw [List.concat_eq_append] at hparts
  have hmem : name ∈ parts path := hparts ▸ List.mem_append_right names List.mem_cons_self
  exact ⟨names, name, hparts, slash_not_mem_of_mem_parts hmem⟩

theorem PlainName.isAbsolute_eq {name : String} (h : PlainName name) : isAbsolute name = false := by
  rw [isAbsolute]
  cases hs : name.toList with
  | nil => rfl
  | cons c rest =>
    have hc : c ≠ '/' := fun he => h.slash (hs ▸ he ▸ List.mem_cons_self)
    simp [hc]

theorem parts_of_cons {path : String} {c : Char} {s : List Char} (h : path.toList = c :: s) :
    parts path = ((if c = '/' then s else c :: s).splitOn '/').map String.ofList := by
  by_cases hc : c = '/' <;> simp [parts, isAbsolute, h, hc]

/-- The path of a name in a directory has the name at its end, in the place of nothing if the path
of the directory ends in a slash. -/
theorem exists_parts_join {directory name : String} (hdirectory : directory ≠ "")
    (hname : PlainName name) :
    isAbsolute (join directory name) = isAbsolute directory ∧
    ∃ names, parts (join directory name) = names ++ [name] ∧
      (parts directory = names ∨ parts directory = names ++ [""]) := by
  have hne : directory.toList ≠ [] := fun h => hdirectory (String.toList_eq_nil_iff.1 h)
  obtain ⟨c, rest, hd⟩ := List.exists_cons_of_ne_nil hne
  have hsplit : ∀ s : List Char, (s ++ '/' :: name.toList).splitOn '/' =
      s.splitOn '/' ++ [name.toList] := fun s => by
    rw [Text.splitOn_append_cons, Text.splitOn_of_not_mem hname.slash]
  rw [join, hname.isAbsolute_eq, Bool.false_or, if_neg (by simpa using hdirectory)]
  split
  next hslash =>
    have htext : (directory ++ name).toList = c :: (rest ++ name.toList) := by
      rw [String.toList_append, hd, List.cons_append]
    refine ⟨by simp [isAbsolute, htext, hd], ?_⟩
    rw [hd, beq_iff_eq] at hslash
    -- what the name follows is nothing but the slash of the root, or ends in a slash
    have hfront : (∃ front, (if c = '/' then rest else c :: rest) = front ++ ['/']) ∨
        (if c = '/' then rest else c :: rest) = [] := by
      split
      · rcases List.eq_nil_or_concat rest with rfl | ⟨front, last, rfl⟩
        · exact Or.inr rfl
        · rw [List.concat_eq_append] at hslash ⊢
          rw [← List.cons_append, List.getLast?_concat] at hslash
          exact Or.inl ⟨front, by rw [Option.some.inj hslash]⟩
      · obtain ⟨front, hfront⟩ := List.getLast?_eq_some_iff.1 hslash
        exact Or.inl ⟨front, hfront⟩
    have happend : (if c = '/' then rest ++ name.toList else c :: (rest ++ name.toList)) =
        (if c = '/' then rest else c :: rest) ++ name.toList := by
      split <;> rfl
    rw [parts_of_cons htext, parts_of_cons hd, happend]
    rcases hfront with ⟨front, hfront⟩ | hnil
    · refine ⟨(front.splitOn '/').map String.ofList, ?_, Or.inr ?_⟩
      · rw [hfront, List.append_assoc, List.singleton_append, hsplit]
        simp
      · rw [hfront, Text.splitOn_append_cons]
        simp
    · refine ⟨[], ?_, Or.inr ?_⟩
      · rw [hnil, List.nil_append, Text.splitOn_of_not_mem hname.slash]
        simp
      · rw [hnil]
        rfl
  next =>
    have htext : (directory ++ "/" ++ name).toList = c :: (rest ++ '/' :: name.toList) := by
      rw [String.toList_append, String.toList_append, hd]
      simp
    have happend : (if c = '/' then rest ++ '/' :: name.toList
        else c :: (rest ++ '/' :: name.toList)) =
        (if c = '/' then rest else c :: rest) ++ '/' :: name.toList := by
      split <;> rfl
    refine ⟨by simp [isAbsolute, htext, hd], parts directory, ?_, Or.inl rfl⟩
    rw [parts_of_cons htext, parts_of_cons hd, happend, hsplit]
    simp

end Path

namespace FileTree

/-! ### Entries -/

theorem child_of_plain {name : String} (h : Path.PlainName name) (l : Location) :
    child l name = l ++ [name] := by
  have hspecial := h.special
  simp only [List.mem_cons, List.not_mem_nil, or_false, not_or] at hspecial
  rw [child, if_neg (not_or.2 ⟨hspecial.1, hspecial.2.1⟩), if_neg hspecial.2.2]

theorem isAnchor_of_plain {name : String} (h : Path.PlainName name) (l : Location) :
    isAnchor (l ++ [name]) = false := by
  have hspecial := h.special
  simp only [List.mem_cons, List.not_mem_nil, or_false, not_or] at hspecial
  have hroot : l ++ [name] ≠ ["/"] := by
    intro he
    obtain ⟨-, hsingle⟩ := List.append_inj' (he.trans (List.nil_append _).symm) rfl
    rw [List.singleton_inj.1 hsingle] at h
    exact h.slash (by decide)
  simp [isAnchor, hspecial.2.2, hroot]

theorem isAnchor_parent {l : Location} (h : isAnchor l = true) : isAnchor (parent l) = true := by
  rw [isAnchor, Bool.or_eq_true, beq_iff_eq] at h
  rcases h with hall | rfl
  · have hdots : ∀ name ∈ l, name = ".." := fun name hname =>
      beq_iff_eq.1 (List.all_eq_true.1 hall name hname)
    have hroot : l ≠ ["/"] := by
      rintro rfl
      exact absurd hall (by decide)
    rw [parent, if_neg hroot]
    cases hlast : l.getLast? with
    | none => rfl
    | some last =>
      rw [hdots last (List.mem_of_getLast? hlast)]
      simp [isAnchor, hall]
  · rfl

theorem mem_put {l : Location} {n : Node} {es : List (Location × Node)} {e : Location × Node}
    (h : e ∈ put l n es) : e = (l, n) ∨ e ∈ es := by
  induction es with
  | nil => exact Or.inl (List.mem_singleton.1 h)
  | cons f es ih =>
    rw [put] at h
    split at h
    · exact (List.mem_cons.1 h).imp_right (List.mem_cons_of_mem f)
    · rcases List.mem_cons.1 h with rfl | h
      · exact Or.inr List.mem_cons_self
      · exact (ih h).imp_right (List.mem_cons_of_mem f)

theorem nodup_put {l : Location} {n : Node} {es : List (Location × Node)}
    (h : (es.map Prod.fst).Nodup) : ((put l n es).map Prod.fst).Nodup := by
  induction es with
  | nil => simp [FileTree.put]
  | cons f es ih =>
    obtain ⟨hf, hes⟩ := List.nodup_cons.1 h
    rw [put]
    split
    next heq =>
      rw [List.map_cons, ← heq]
      exact List.nodup_cons.2 ⟨hf, hes⟩
    next hne =>
      rw [List.map_cons]
      refine List.nodup_cons.2 ⟨?_, ih hes⟩
      intro hmem
      obtain ⟨e, he, heq⟩ := List.mem_map.1 hmem
      rcases mem_put he with rfl | he
      · exact hne heq.symm
      · exact hf (heq ▸ List.mem_map_of_mem he)

theorem lookup_eq_some_iff_mem {l : Location} {n : Node} {es : List (Location × Node)}
    (h : (es.map Prod.fst).Nodup) : es.lookup l = some n ↔ (l, n) ∈ es := by
  induction es with
  | nil => simp
  | cons e es ih =>
    obtain ⟨m, k⟩ := e
    obtain ⟨hm, hes⟩ := List.nodup_cons.1 h
    by_cases hl : l = m
    · subst hl
      have hnot : (l, n) ∉ es := fun hmem => hm (List.mem_map.2 ⟨(l, n), hmem, rfl⟩)
      simp [hnot, eq_comm]
    · have hne : (l == m) = false := beq_eq_false_iff_ne.2 hl
      rw [List.lookup_cons, hne, List.mem_cons]
      simp [hl, ih hes]

/-! ### Names in a directory -/

/-- **A name in a directory** is found by its path, if neither of them is too long. -/
theorem locate_join_iff {t : FileTree} {l m : Location} {directory name : String}
    (hname : Path.PlainName name) (hl : t.locate directory = .ok l)
    (hdirectory : t.node? l = some .directory) :
    t.locate (Path.join directory name) = .ok m ↔
      checkPath (Path.join directory name) = .ok () ∧ name.utf8ByteSize ≤ nameLimit ∧
        m = l ++ [name] := by
  obtain ⟨hcheck, hwalk⟩ := locate_eq_ok_iff.1 hl
  obtain ⟨habsolute, names, hjoin, hparts⟩ :=
    Path.exists_parts_join (checkPath_ne_empty hcheck) hname
  have hnames : t.walk directory names = .ok l := by
    rcases hparts with hparts | hparts
    · rwa [hparts] at hwalk
    · rw [hparts] at hwalk
      obtain ⟨d, hd, henter⟩ := walk_concat_eq_ok_iff.1 hwalk
      obtain ⟨-, -, rfl⟩ := enter_eq_ok_iff.1 henter
      exact hd
  have hwalk' : t.walk (Path.join directory name) names = .ok l := by
    rw [walk, habsolute]
    exact hnames
  rw [locate_eq_ok_iff, hjoin, walk_concat_eq_ok_iff]
  simp only [hwalk', Except.ok.injEq, exists_eq_left', enter_eq_ok_iff, hdirectory,
    child_of_plain hname, true_and]

/-! ### Proper trees -/

/-- Whether a location is that of a name in a directory of a tree. -/
def IsEntry (t : FileTree) (l : Location) : Prop :=
  ∃ directory name, l = directory ++ [name] ∧ Path.PlainName name ∧ name.utf8ByteSize ≤ nameLimit ∧
    t.node? directory = some .directory

theorem IsEntry.mono {t t' : FileTree} (h : Keeps t t') {l : Location} (hl : t.IsEntry l) :
    t'.IsEntry l := by
  obtain ⟨directory, name, he, hname, hsize, hdirectory⟩ := hl
  exact ⟨directory, name, he, hname, hsize, h directory hdirectory⟩

/-- A tree as there can be one: its places are distinct, each that of a name in a directory. -/
structure Proper (t : FileTree) : Prop where
  distinct : (t.entries.map Prod.fst).Nodup
  placed : ∀ e ∈ t.entries, t.IsEntry e.1

theorem proper_empty : empty.Proper := ⟨List.nodup_nil, nofun⟩

namespace Proper

variable {t t' : FileTree} {l m : Location} {path : String}

theorem isEntry_of_node? (h : t.Proper) {n : Node} (hl : isAnchor l = false)
    (hn : t.node? l = some n) : t.IsEntry l := by
  rw [node?, hl] at hn
  exact h.placed (l, n) ((lookup_eq_some_iff_mem h.distinct).1 hn)

/-- **What is at a place** is what is listed there. -/
theorem mem_entries_iff (h : t.Proper) {name : String} (hname : Path.PlainName name) {n : Node} :
    (l ++ [name], n) ∈ t.entries ↔ t.node? (l ++ [name]) = some n := by
  rw [node?, isAnchor_of_plain hname, ← lookup_eq_some_iff_mem h.distinct]
  rfl

/-- The location above a directory is a directory. -/
theorem node?_parent (h : t.Proper) (hl : t.node? l = some .directory) :
    t.node? (parent l) = some .directory := by
  cases hanchor : isAnchor l with
  | false =>
    obtain ⟨directory, name, rfl, hname, -, hdirectory⟩ := h.isEntry_of_node? hanchor hl
    have hroot : directory ++ [name] ≠ ["/"] := by
      rintro he
      rw [he] at hanchor
      exact absurd hanchor (by decide)
    have hdots : name ≠ ".." := fun he => hname.special (by simp [he])
    rw [parent, if_neg hroot, List.getLast?_concat]
    simp only [hdots, if_false, List.dropLast_concat, hdirectory]
  | true =>
    rw [node?, isAnchor_parent hanchor]
    rfl

/-- **One name further down** there is a directory, or the name is that of a place in one. -/
theorem of_enter (h : t.Proper) {name : String} (hslash : '/' ∉ name.toList)
    (henter : t.enter l name = .ok m) : t.node? m = some .directory ∨ t.IsEntry m := by
  obtain ⟨hl, hsize, rfl⟩ := enter_eq_ok_iff.1 henter
  by_cases hname : Path.PlainName name
  · rw [child_of_plain hname]
    exact Or.inr ⟨l, name, rfl, hname, hsize, hl⟩
  · left
    rw [child]
    split
    · exact hl
    next hdot =>
      split
      · exact h.node?_parent hl
      next hdots =>
        refine absurd ⟨?_, hslash⟩ hname
        simp only [List.mem_cons, List.not_mem_nil, or_false, not_or]
        exact ⟨fun he => hdot (Or.inl he), fun he => hdot (Or.inr he), hdots⟩

/-- **A path leads** to a directory, or to a place in one. -/
theorem of_locate (h : t.Proper) (hl : t.locate path = .ok l) :
    t.node? l = some .directory ∨ t.IsEntry l := by
  obtain ⟨-, hwalk⟩ := locate_eq_ok_iff.1 hl
  obtain ⟨names, name, hparts, hslash⟩ := Path.exists_parts_eq_concat path
  rw [hparts] at hwalk
  obtain ⟨d, -, henter⟩ := walk_concat_eq_ok_iff.1 hwalk
  exact h.of_enter hslash henter

/-! ### Changes -/

theorem put (h : t.Proper) (hl : t.locate path = .ok l) (hfree : t.node? l ≠ some .directory)
    (n : Node) : Proper ⟨FileTree.put l n t.entries⟩ := by
  have hkeeps := keeps_put hfree n
  refine ⟨nodup_put h.distinct, ?_⟩
  intro e he
  rcases mem_put he with rfl | he
  · exact IsEntry.mono hkeeps ((h.of_locate hl).resolve_left hfree)
  · exact IsEntry.mono hkeeps (h.placed e he)

theorem write (h : t.Proper) {content : ByteArray} (hwrite : t.write path content = .ok t') :
    t'.Proper := by
  obtain ⟨-, l, hl, hfree, rfl⟩ := write_eq_ok_iff.1 hwrite
  exact h.put hl hfree _

theorem makeDirectory (h : t.Proper) (hmade : t.makeDirectory path = .ok t') : t'.Proper := by
  obtain ⟨-, -, l, hl, hfree, rfl⟩ := makeDirectory_eq_ok_iff.1 hmade
  exact h.put hl (by simp [hfree]) _

theorem makeEach (h : t.Proper) (paths : List String) : (t.makeEach paths).1.Proper := by
  induction paths with
  | nil => exact h
  | cons path above ih =>
    obtain ⟨t₁, hbefore, hlast⟩ := exists_of_makeEach t path above
    have hproper : t₁.Proper := by
      rcases hbefore with rfl | rfl
      · exact h
      · exact ih
    rcases hlast with hmade | ⟨hsame, -⟩
    · exact hproper.makeDirectory hmade
    · rwa [hsame]

theorem makeDirectories (h : t.Proper) (path : String) : (t.makeDirectories path).1.Proper := by
  rw [FileTree.makeDirectories]
  split
  · exact h
  · exact h.makeEach _

theorem add (h : t.Proper) (path : String) (content : ByteArray) : (t.add path content).Proper := by
  rw [FileTree.add]
  split
  · exact h.makeDirectories path
  · cases Path.ancestors path with
    | nil =>
      dsimp only
      split
      next hwrite => exact h.write hwrite
      next => exact h
    | cons p above =>
      dsimp only
      split
      next hwrite => exact (h.makeEach _).write hwrite
      next => exact h.makeEach _

theorem foldl_add (h : t.Proper) (places : List (String × ByteArray)) :
    (places.foldl (fun t p => t.add p.1 p.2) t).Proper := by
  induction places generalizing t with
  | nil => exact h
  | cons p places ih => exact ih (h.add p.1 p.2)

end Proper

/-- **A tree is proper** if its entries are those of places added one after the other. -/
theorem proper_of_added {t : FileTree} (places : List (String × ByteArray))
    (h : t.entries = (places.foldl (fun t p => t.add p.1 p.2) empty).entries) : t.Proper := by
  have htree : t = places.foldl (fun t p => t.add p.1 p.2) empty := by
    cases t
    exact congrArg FileTree.mk h
  rw [htree]
  exact proper_empty.foldl_add places

end FileTree

/-! ### Runs -/

namespace Run

variable {t : FileTree}

theorem proper_writeEach (h : t.Proper) (directory : String) (files : List (String × String)) :
    (writeEach directory t files).tree.Proper := by
  induction files generalizing t with
  | nil => exact h
  | cons f files ih =>
    obtain ⟨name, text⟩ := f
    cases hwrite : t.write (Path.join directory name) text.toUTF8 with
    | error fault => rwa [writeEach_of_error hwrite]
    | ok t' =>
      rw [writeEach_of_ok hwrite]
      exact ih (h.write hwrite)

theorem proper_store (h : t.Proper) (directory : String) (m : Mechanism)
    (unknowns : List String) : (store directory m unknowns t).tree.Proper := by
  have hmade := h.makeDirectories directory
  rw [store]
  split
  next t' fault heq =>
    rw [heq] at hmade
    exact hmade
  next t' heq =>
    rw [heq] at hmade
    exact proper_writeEach hmade directory _

/-- **A run leaves a proper tree**, whether it succeeds or not. -/
theorem proper_perform (h : t.Proper) (s : Settings) : (perform s t).tree.Proper := by
  cases hprepare : (prepare s t).outcome with
  | error e => rwa [perform_of_error hprepare]
  | ok p =>
    obtain ⟨m, unknowns⟩ := p
    rw [perform_of_ok hprepare]
    exact proper_store h _ m unknowns

end Run

end AtmosChem
