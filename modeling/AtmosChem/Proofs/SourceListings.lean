import Mathlib.Data.List.Nodup
import Mathlib.Tactic.SplitIfs
import AtmosChem.Proofs.ProperTrees
import AtmosChem.Proofs.Reruns

/-!
# Listings of sources

The sources of a mechanism are the files of a directory whose names begin with its name and end with
a suffix of the format.  No suffix of a format ends in another one (`Format.suffixes_differ`), so a
name has its place by one suffix only, and no file is listed twice.  Names with one suffix are in the
order of their bytes: characters are encoded so that their order is kept (`bytes_lt_bytes`).

* `Source.IsSource`: what a source is, whatever a directory lists and in which order.
* `Source.Before`: the order of sources, by suffix and then by name.
* `Source.findFiles_complete`: the sources are found, all of them and once, in order.
-/

namespace AtmosChem.Source

open FileTree

/-! ### The order of bytes -/

/-- The bytes of a name. -/
def bytes (name : String) : List UInt8 := name.toUTF8.data.toList

theorem bytes_eq (name : String) : bytes name = name.toList.flatMap String.utf8EncodeChar := by
  conv_lhs => rw [bytes, ← String.ofList_toList (s := name)]
  rw [String.toUTF8_eq_toByteArray, String.toByteArray_ofList, List.utf8Encode]
  simp

theorem ofNat_lt_iff {a b : Nat} (ha : a < 256) (hb : b < 256) :
    UInt8.ofNat a < UInt8.ofNat b ↔ a < b :=
  UInt8.ofNat_lt_iff_lt ha hb

theorem ofNat_eq_iff {a b : Nat} (ha : a < 256) (hb : b < 256) :
    UInt8.ofNat a = UInt8.ofNat b ↔ a = b := by
  rw [← UInt8.toNat_inj, UInt8.toNat_ofNat', UInt8.toNat_ofNat', Nat.mod_eq_of_lt ha,
    Nat.mod_eq_of_lt hb]

/-- Numbers are in the order of their digits to the base 64. -/
theorem digits_lt {m n : Nat} (h : m < n) (hn : n < 2097152) :
    m / 262144 % 8 < n / 262144 % 8 ∨ m / 262144 % 8 = n / 262144 % 8 ∧
      (m / 4096 % 64 < n / 4096 % 64 ∨ m / 4096 % 64 = n / 4096 % 64 ∧
        (m / 64 % 64 < n / 64 % 64 ∨ m / 64 % 64 = n / 64 % 64 ∧ m % 64 < n % 64)) := by
  have hdigits : ∀ k < 2097152, k = 262144 * (k / 262144 % 8) + 4096 * (k / 4096 % 64) +
      64 * (k / 64 % 64) + k % 64 := by omega
  have hbound : ∀ k : Nat, k % 64 < 64 := fun k => Nat.mod_lt k (by decide)
  have hm := hdigits m (Nat.lt_trans h hn)
  have hn := hdigits n hn
  have hm₂ := hbound (m / 4096)
  have hm₁ := hbound (m / 64)
  have hm₀ := hbound m
  have hn₂ := hbound (n / 4096)
  have hn₁ := hbound (n / 64)
  have hn₀ := hbound n
  -- the digits as unknowns of their own, no longer as quotients
  generalize m / 262144 % 8 = m₃ at *
  generalize n / 262144 % 8 = n₃ at *
  generalize m / 4096 % 64 = m₂ at *
  generalize n / 4096 % 64 = n₂ at *
  generalize m / 64 % 64 = m₁ at *
  generalize n / 64 % 64 = n₁ at *
  generalize m % 64 = m₀ at *
  generalize n % 64 = n₀ at *
  omega

/-- **The encoding keeps the order of characters**, whatever follows them.  Fewer bytes have a
smaller first one; of as many bytes, the digits to the base 64 decide. -/
theorem utf8EncodeChar_append_lt {c d : Char} (h : c < d) (u v : List UInt8) :
    String.utf8EncodeChar c ++ u < String.utf8EncodeChar d ++ v := by
  have hcd : c.val.toNat < d.val.toNat := h
  have hd : d.val.toNat < 0x110000 := by
    rcases d.valid with hlow | hhigh
    · exact Nat.lt_trans hlow (by decide)
    · exact hhigh.2
  simp only [String.utf8EncodeChar]
  generalize c.val.toNat = m at *
  generalize d.val.toNat = n at *
  by_cases hm : m ≤ 65535
  · split_ifs <;>
      simp (disch := omega) only [List.cons_append, List.nil_append, List.cons_lt_cons_iff,
        ofNat_lt_iff, ofNat_eq_iff] <;> omega
  · rw [if_neg (by omega), if_neg (by omega), if_neg hm, if_neg (by omega), if_neg (by omega),
      if_neg (by omega)]
    simp (disch := omega) only [List.cons_append, List.nil_append, List.cons_lt_cons_iff,
      ofNat_lt_iff, ofNat_eq_iff, Nat.add_lt_add_iff_right, Nat.add_right_cancel_iff]
    rcases digits_lt hcd (by omega) with hlt | ⟨h₃, hlt | ⟨h₂, hlt | ⟨h₁, hlt⟩⟩⟩
    · exact .inl hlt
    · exact .inr ⟨h₃, .inl hlt⟩
    · exact .inr ⟨h₃, .inr ⟨h₂, .inl hlt⟩⟩
    · exact .inr ⟨h₃, .inr ⟨h₂, .inr ⟨h₁, .inl hlt⟩⟩⟩

theorem flatMap_utf8EncodeChar_lt {s t : List Char} (h : s < t) :
    s.flatMap String.utf8EncodeChar < t.flatMap String.utf8EncodeChar := by
  induction h with
  | @nil c t =>
    rw [List.flatMap_nil, List.flatMap_cons]
    obtain ⟨b, bs, hb⟩ := List.exists_cons_of_ne_nil (l := String.utf8EncodeChar c)
      (List.ne_nil_of_length_pos (by rw [String.length_utf8EncodeChar]; exact c.utf8Size_pos))
    rw [hb, List.cons_append]
    exact List.Lex.nil
  | rel h => exact utf8EncodeChar_append_lt h _ _
  | cons _ ih => exact List.append_left_lt ih

/-- **Names are in the order of their bytes.** -/
theorem bytes_lt_bytes {n n' : String} (h : n < n') : bytes n < bytes n' := by
  rw [bytes_eq, bytes_eq]
  exact flatMap_utf8EncodeChar_lt (String.lt_iff.1 h)

/-! ### The order of sources -/

/-- The place of the suffix that a name ends with. -/
def place (suffixes : List String) (n : String) : Nat :=
  suffixes.findIdx fun suffix => suffix.toList.isSuffixOf n.toList

/-- Whether a name comes before another: by its suffix, and by its bytes among those that have the
same. -/
def Before (suffixes : List String) (n n' : String) : Prop :=
  place suffixes n < place suffixes n' ∨
    place suffixes n = place suffixes n' ∧ bytes n < bytes n'

theorem Before.ne {suffixes : List String} {n n' : String} (h : Before suffixes n n') : n ≠ n' := by
  rintro rfl
  rcases h with h | ⟨-, h⟩
  · exact Nat.lt_irrefl _ h
  · exact List.lt_irrefl _ h

variable {suffixes : List String}

/-- A name has the place of any suffix that it ends with: there is no other. -/
theorem place_eq (hdiffer : suffixes.Pairwise fun s s' => Differ s.toList s'.toList) {i : Nat}
    (hi : i < suffixes.length) {n : String} (hn : suffixes[i].toList <:+ n.toList) :
    place suffixes n = i := by
  rw [place, List.findIdx_eq hi, List.isSuffixOf_iff_suffix]
  refine ⟨hn, ?_⟩
  intro j hji
  rw [Bool.eq_false_iff, ne_eq, List.isSuffixOf_iff_suffix]
  intro hj
  have hboth := List.pairwise_iff_getElem.1 hdiffer j i (Nat.lt_trans hji hi) hi hji
  rcases List.suffix_or_suffix_of_suffix hj hn with hs | hs
  · exact hboth.1 hs
  · exact hboth.2 hs

theorem mem_select_iff {name n : String} {names : List String} :
    n ∈ select name suffixes names ↔
      n ∈ names ∧ name.toList <+: n.toList ∧ ∃ suffix ∈ suffixes, suffix.toList <:+ n.toList := by
  simp only [select, List.mem_flatMap, matching, List.mem_filter, Bool.and_eq_true, sorted,
    List.mem_mergeSort, List.isPrefixOf_iff_prefix, List.isSuffixOf_iff_suffix]
  constructor
  · rintro ⟨suffix, hsuffix, hn, hbegins, hends⟩
    exact ⟨hn, hbegins, suffix, hsuffix, hends⟩
  · rintro ⟨hn, hbegins, suffix, hsuffix, hends⟩
    exact ⟨suffix, hsuffix, hn, hbegins, hends⟩

/-- **Sources are selected in order.** -/
theorem pairwise_select (hdiffer : suffixes.Pairwise fun s s' => Differ s.toList s'.toList)
    (name : String) {names : List String} (hnames : names.Nodup) :
    (select name suffixes names).Pairwise (Before suffixes) := by
  have hstrict : (sorted names).Pairwise fun a b => a < b := by
    have hnodup : (sorted names).Nodup := (List.mergeSort_perm _ _).nodup_iff.2 hnames
    refine (List.Pairwise.and (pairwise_sorted names) hnodup).imp ?_
    rintro a b ⟨hle, hne⟩
    exact String.not_le.1 fun hge => hne (String.le_antisymm hle hge)
  have hends : ∀ suffix, ∀ n ∈ matching name suffix (sorted names), suffix.toList <:+ n.toList := by
    intro suffix n hn
    exact List.isSuffixOf_iff_suffix.1 (Bool.and_eq_true_iff.1 (List.mem_filter.1 hn).2).2
  rw [select, List.pairwise_flatMap]
  constructor
  · intro suffix hsuffix
    obtain ⟨i, hi, rfl⟩ := List.getElem_of_mem hsuffix
    refine List.Pairwise.imp_of_mem ?_ (hstrict.filter _)
    intro n n' hn hn' hlt
    right
    rw [place_eq hdiffer hi (hends _ n hn), place_eq hdiffer hi (hends _ n' hn')]
    exact ⟨rfl, bytes_lt_bytes hlt⟩
  · rw [List.pairwise_iff_getElem]
    intro i j hi hj hij n hn n' hn'
    left
    rwa [place_eq hdiffer hi (hends _ n hn), place_eq hdiffer hj (hends _ n' hn')]

/-! ### Sources -/

variable {t t' : FileTree} {directory name : String}

theorem mem_children_iff {l : Location} {n : String} :
    n ∈ t.children l ↔ ∃ content, (l ++ [n], Node.file content) ∈ t.entries := by
  rw [children, List.mem_filterMap]
  constructor
  · rintro ⟨⟨m, node⟩, he, hname⟩
    cases node with
    | directory => exact absurd hname (by simp)
    | file content => exact ⟨content, eq_of_nameIn? hname ▸ he⟩
  · rintro ⟨content, he⟩
    refine ⟨_, he, ?_⟩
    show nameIn? l (l ++ [n]) = some n
    rw [nameIn?, List.dropLast_concat, if_pos rfl, List.getLast?_concat]

theorem nodup_children (h : t.Proper) (l : Location) : (t.children l).Nodup := by
  rw [children, List.Nodup, List.pairwise_filterMap]
  refine (List.pairwise_map.1 h.distinct).imp ?_
  rintro ⟨m, node⟩ ⟨m', node'⟩ hne n hn n' hn' rfl
  cases node with
  | directory => exact absurd hn (by simp)
  | file =>
    cases node' with
    | directory => exact absurd hn' (by simp)
    | file => exact hne ((eq_of_nameIn? hn).trans (eq_of_nameIn? hn').symm)

/-- Whether there is a file at a path. -/
def IsFile (t : FileTree) (path : String) : Prop := ∃ content, t.read path = .ok content

/-- A name that a file of a directory has and that begins and ends as those of sources do. -/
structure IsSource (t : FileTree) (directory name : String) (suffixes : List String) (n : String) :
    Prop where
  plain : Path.PlainName n
  file : IsFile t (Path.join directory n)
  begins : name.toList <+: n.toList
  ends : ∃ suffix ∈ suffixes, suffix.toList <:+ n.toList

/-- **A file of a directory is listed** under its name. -/
theorem mem_listed_iff (h : t.Proper) {l : Location} (hl : t.locate directory = .ok l)
    (hdirectory : t.node? l = some .directory) {n : String} :
    n ∈ listed t directory l ↔ Path.PlainName n ∧ IsFile t (Path.join directory n) := by
  have hcheck : (checkPath (Path.join directory n)).isOk = true ↔
      checkPath (Path.join directory n) = .ok () := by
    cases checkPath (Path.join directory n) <;> simp [Except.isOk, Except.toBool]
  rw [listed, List.mem_filter, mem_children_iff, hcheck]
  constructor
  · rintro ⟨⟨content, he⟩, hok⟩
    obtain ⟨d, n', heq, hplain, hsize, -⟩ := h.placed _ he
    obtain ⟨-, hsingle⟩ := List.append_inj' heq rfl
    obtain rfl := List.singleton_inj.1 hsingle
    refine ⟨hplain, content, read_eq_ok_iff.2 ⟨l ++ [n], ?_, ?_⟩⟩
    · exact (locate_join_iff hplain hl hdirectory).2 ⟨hok, hsize, rfl⟩
    · exact (h.mem_entries_iff hplain).1 he
  · rintro ⟨hplain, content, hread⟩
    obtain ⟨m, hm, hnode⟩ := read_eq_ok_iff.1 hread
    obtain ⟨hok, -, rfl⟩ := (locate_join_iff hplain hl hdirectory).1 hm
    exact ⟨⟨content, (h.mem_entries_iff hplain).2 hnode⟩, hok⟩

theorem mem_select_listed_iff (h : t.Proper) {l : Location} (hl : t.locate directory = .ok l)
    (hdirectory : t.node? l = some .directory) {n : String} :
    n ∈ select name suffixes (listed t directory l) ↔ IsSource t directory name suffixes n := by
  rw [mem_select_iff, mem_listed_iff h hl hdirectory]
  constructor
  · rintro ⟨⟨hplain, hfile⟩, hbegins, hends⟩
    exact ⟨hplain, hfile, hbegins, hends⟩
  · intro hsource
    exact ⟨⟨hsource.plain, hsource.file⟩, hsource.begins, hsource.ends⟩

theorem join_injective {n n' : String} (hn : Path.PlainName n) (hn' : Path.PlainName n')
    (h : Path.join directory n = Path.join directory n') : n = n' := by
  rw [Path.join, Path.join, hn.isAbsolute_eq, hn'.isAbsolute_eq] at h
  split at h
  · exact h
  · split at h <;> exact (String.append_right_inj _).1 h

/-! ### The order of a listing -/

theorem node?_perm (h : t.Proper) (hperm : t'.entries.Perm t.entries) : t'.node? = t.node? := by
  have hdistinct : (t'.entries.map Prod.fst).Nodup := (hperm.map Prod.fst).nodup_iff.2 h.distinct
  funext l
  have hlookup : t'.entries.lookup l = t.entries.lookup l := by
    ext n
    rw [lookup_eq_some_iff_mem hdistinct, lookup_eq_some_iff_mem h.distinct, hperm.mem_iff]
  rw [node?, node?, hlookup]

theorem locate_perm (h : t.Proper) (hperm : t'.entries.Perm t.entries) (path : String) :
    t'.locate path = t.locate path := by
  have henter : t'.enter = t.enter := by
    funext l name
    rw [enter, enter, checkDirectory, checkDirectory, node?_perm h hperm]
  rw [locate, locate, walk, walk, henter]

theorem select_perm (hperm : t'.entries.Perm t.entries) (l : Location) :
    select name suffixes (listed t' directory l) = select name suffixes (listed t directory l) := by
  have hlisted : (listed t' directory l).Perm (listed t directory l) :=
    (hperm.filterMap _).filter _
  rw [select, select, sorted_congr hlisted]

/-- The order in which a tree has its entries makes no difference to what is found. -/
theorem findFiles_perm (h : t.Proper) (hperm : t'.entries.Perm t.entries) :
    findFiles t' directory name suffixes = findFiles t directory name suffixes := by
  simp only [findFiles, locate_perm h hperm, node?_perm h hperm, select_perm hperm]

/-! ### What is found -/

/-- A list of names as the sources of a mechanism should be listed. -/
structure Lists (t : FileTree) (directory name : String) (suffixes names : List String) : Prop where
  mem_iff : ∀ n, n ∈ names ↔ IsSource t directory name suffixes n
  once : names.Nodup
  ordered : names.Pairwise (Before suffixes)

theorem Lists.nodup_paths {names : List String} (h : Lists t directory name suffixes names) :
    (names.map (Path.join directory)).Nodup := by
  refine List.Nodup.map_on ?_ h.once
  intro n hn n' hn'
  exact join_injective ((h.mem_iff n).1 hn).plain ((h.mem_iff n').1 hn').plain

theorem Lists.eq_nil_iff {names : List String} (h : Lists t directory name suffixes names) :
    names = [] ↔ ∀ n, ¬IsSource t directory name suffixes n := by
  rw [List.eq_nil_iff_forall_not_mem]
  exact forall_congr' fun n => not_congr (h.mem_iff n)

theorem findFiles_of_not_isDirectory (h : t.isDirectory directory = false) :
    findFiles t directory name suffixes = .error (.settings (.noDirectory directory)) := by
  rw [isDirectory] at h
  rw [findFiles]
  cases hl : t.locate directory with
  | error e => rfl
  | ok l =>
    rw [hl] at h
    have hnode : t.node? l ≠ some .directory := by simpa using h
    simp only [hnode, ne_eq, not_false_eq_true, if_true]

/-- What is found in a directory. -/
theorem exists_findFiles_eq (hproper : t.Proper)
    (hdiffer : suffixes.Pairwise fun s s' => Differ s.toList s'.toList)
    (h : t.isDirectory directory = true) : ∃ names, Lists t directory name suffixes names ∧
      findFiles t directory name suffixes =
        if names = [] then .error (.settings (.noFiles name suffixes directory))
        else .ok (names.map (Path.join directory)) := by
  obtain ⟨l, hl, hnode⟩ := isDirectory_iff.1 h
  have hordered := pairwise_select hdiffer name
    ((nodup_children hproper l).filter fun n => (checkPath (Path.join directory n)).isOk)
  refine ⟨select name suffixes (listed t directory l), ⟨?_, ?_, hordered⟩, ?_⟩
  · exact fun n => mem_select_listed_iff hproper hl hnode
  · exact hordered.imp fun hbefore => hbefore.ne
  · simp only [findFiles, hl, hnode, ne_eq, not_true_eq_false, if_false]

/-- No suffix of a format ends in another one. -/
theorem suffixes_differ (f : Format) :
    f.suffixes.Pairwise fun s s' => Differ s.toList s'.toList := by
  cases f <;> decide

/-- **The sources of a mechanism are found**: if some are, they are all the files of the directory
with a source's name, each once, by suffix first and then by the bytes of the name.  To find nothing
is a failure of settings, and there is no other: either there is no such directory, or no source in
it.  It does not matter in which order the entries are listed. -/
theorem findFiles_complete (f : Format) {t : FileTree} (h : t.Proper) (directory name : String) :
    (∀ paths, findFiles t directory name f.suffixes = .ok paths → paths.Nodup ∧
      ∃ names, paths = names.map (Path.join directory) ∧ Lists t directory name f.suffixes names) ∧
    ((∃ fault, findFiles t directory name f.suffixes = .error (.settings fault)) ↔
      t.isDirectory directory = false ∨ ∀ n, ¬IsSource t directory name f.suffixes n) ∧
    (∀ e, findFiles t directory name f.suffixes = .error e → e = .settings
      (if t.isDirectory directory then .noFiles name f.suffixes directory
        else .noDirectory directory)) ∧
    ∀ t' : FileTree, t'.entries.Perm t.entries →
      findFiles t' directory name f.suffixes = findFiles t directory name f.suffixes := by
  rw [← and_assoc, ← and_assoc]
  refine ⟨?_, fun t' => findFiles_perm h⟩
  rw [and_assoc]
  cases hdirectory : t.isDirectory directory with
  | false =>
    rw [findFiles_of_not_isDirectory hdirectory]
    simp
  | true =>
    obtain ⟨names, hlists, heq⟩ := exists_findFiles_eq h (suffixes_differ f) hdirectory
    rw [heq, ← hlists.eq_nil_iff]
    by_cases hnil : names = []
    · simp [hnil]
    · simp only [hnil, if_false, Except.ok.injEq]
      refine ⟨?_, by simp, by simp⟩
      rintro paths rfl
      exact ⟨hlists.nodup_paths, names, rfl, hlists⟩

/-- Three sources of a mechanism, a file with another ending and a directory with a source's. -/
def racmTree : FileTree := ⟨[
  (["in"], .directory),
  (["in", "racm.eqn"], .file .empty),
  (["in", "racm_extra.spc"], .file .empty),
  (["in", "racm.spc"], .file .empty),
  (["in", "racm.txt"], .file .empty),
  (["in", "racm.def"], .directory)]⟩

def racmPaths : List String := ["in/racm.spc", "in/racm_extra.spc", "in/racm.eqn"]

theorem proper_racmTree : racmTree.Proper :=
  proper_of_added [("in/racm.eqn", .empty), ("in/racm_extra.spc", .empty), ("in/racm.spc", .empty),
    ("in/racm.txt", .empty), ("in/racm.def/", .empty)] (by decide +kernel)

theorem findFiles_racmTree :
    findFiles racmTree "in" "racm" Format.mozart.suffixes = .ok racmPaths := by
  have hlisted : listed racmTree "in" ["in"] =
      ["racm.eqn", "racm_extra.spc", "racm.spc", "racm.txt"] := by decide +kernel
  have hsorted : sorted (listed racmTree "in" ["in"]) =
      ["racm.eqn", "racm.spc", "racm.txt", "racm_extra.spc"] := by
    rw [hlisted]
    exact sorted_eq (by decide) (by decide +kernel)
  have hselect : select "racm" Format.mozart.suffixes (listed racmTree "in" ["in"]) =
      ["racm.spc", "racm_extra.spc", "racm.eqn"] := by
    rw [select, hsorted]
    decide
  exact findFiles_eq_ok_iff.2 ⟨["in"], rfl, rfl, by rw [hselect]; decide, by rw [hselect]; rfl⟩

theorem findFiles_complete_racm :
    racmTree.Proper ∧ racmPaths.Nodup ∧
    (∃ names, racmPaths = names.map (Path.join "in") ∧
      Lists racmTree "in" "racm" Format.mozart.suffixes names) ∧
    ∀ t' : FileTree, t'.entries.Perm racmTree.entries →
      findFiles t' "in" "racm" Format.mozart.suffixes = .ok racmPaths := by
  obtain ⟨hok, -, -, hperm⟩ := findFiles_complete .mozart proper_racmTree "in" "racm"
  obtain ⟨hnodup, hnames⟩ := hok racmPaths findFiles_racmTree
  exact ⟨proper_racmTree, hnodup, hnames, fun t' ht' => (hperm t' ht').trans findFiles_racmTree⟩

end AtmosChem.Source
