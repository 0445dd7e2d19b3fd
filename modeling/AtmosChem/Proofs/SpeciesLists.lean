import AtmosChem.Proofs.DeclaredNames
import AtmosChem.Proofs.DeclaredTerms

/-!
# Lists of species

MOZART declares its species in lists, and a list may be laid out in many ways: entries stand on one
line with commas between them or on lines of their own, commas may have nothing between them, lines
may be blank, names may stand in braces, and blanks are free.  A line end does what a comma does
(`Mozart.declarations_join`), so a layout is nothing but a list of texts without commas, some of
them blank.

`Mozart.WrittenEntry` is an entry with the way it is written, `Mozart.Slot` what stands between two
commas.

* `Mozart.WrittenEntry.declared_text`: an entry declares its name and its formula.
* `Mozart.species_written`: a list declares its entries, in order and whatever its layout.
-/

namespace AtmosChem.Mozart

open Text

/-! ### Entries -/

/-- An entry of a list as it is written: a name, with or without braces around it, and maybe an
arrow and a formula, all with blanks around. -/
structure WrittenEntry where
  name : List Char
  formula : Option (List Char)
  braced : Bool
  lead : List Char
  opened : List Char
  closed : List Char
  trail : List Char
  gap : List Char
  rest : List Char
  blank : ∀ s ∈ [lead, opened, closed, trail, gap, rest], ∀ c ∈ s, isBlank c = true
  name_ne_nil : name ≠ []
  name_tight : Tight name
  name_plain : ∀ c ∈ [',', '\x7b', '\x7d'], c ∉ name
  name_arrow : occurs arrow name = false
  formula_tight : ∀ f ∈ formula, Tight f
  formula_plain : ∀ f ∈ formula, ',' ∉ f

namespace WrittenEntry

def opening (w : WrittenEntry) : List Char :=
  w.lead ++ (if w.braced then ['\x7b'] else []) ++ w.opened

def closing (w : WrittenEntry) : List Char :=
  w.closed ++ (if w.braced then ['\x7d'] else []) ++ w.trail

/-- The name with its braces and blanks. -/
def nameText (w : WrittenEntry) : List Char := w.opening ++ w.name ++ w.closing

def formulaText (w : WrittenEntry) : List Char :=
  w.formula.elim [] fun f => arrow ++ (w.gap ++ f ++ w.rest)

def text (w : WrittenEntry) : List Char := w.nameText ++ w.formulaText

/-- The species that an entry stands for. -/
def species (w : WrittenEntry) (role : Role) : Species :=
  ⟨String.ofList w.name, role, w.formula.map String.ofList⟩

variable (w : WrittenEntry)

/-- No comma and no character of the arrow stands around a name. -/
theorem not_mem_around {c : Char} (hc : c ∈ [',', '-', '>']) : c ∉ w.opening ∧ c ∉ w.closing := by
  have hblank : ∀ c ∈ [',', '-', '>'], isBlank c = false := forall_mem_of_all (by decide)
  have hbrace : ∀ c ∈ [',', '-', '>'], c ∉ ['\x7b', '\x7d'] := forall_mem_of_all (by decide)
  have hblanks : ∀ s ∈ [w.lead, w.opened, w.closed, w.trail, w.gap, w.rest], c ∉ s :=
    fun s hs => not_mem_of_blanks (w.blank s hs) (hblank c hc)
  have hbraces : ∀ brace ∈ ['\x7b', '\x7d'], c ∉ if w.braced then [brace] else [] := by
    intro brace hmem
    cases w.braced
    · simp
    · have hne : c ≠ brace := fun he => hbrace c hc (he ▸ hmem)
      simpa using hne
  simp only [opening, closing, List.mem_append, not_or]
  exact ⟨⟨⟨hblanks _ (by simp), hbraces _ (by simp)⟩, hblanks _ (by simp)⟩,
    ⟨hblanks _ (by simp), hbraces _ (by simp)⟩, hblanks _ (by simp)⟩

theorem comma_not_mem_text : ',' ∉ w.text := by
  obtain ⟨hopen, hclose⟩ := w.not_mem_around (c := ',') (by decide)
  have hname : ',' ∉ w.nameText := by
    simp [nameText, hopen, hclose, w.name_plain ',' (by decide)]
  have hformula : ',' ∉ w.formulaText := by
    rw [formulaText]
    cases hf : w.formula with
    | none => exact List.not_mem_nil
    | some f =>
      have hgap : ',' ∉ w.gap := not_mem_of_blanks (w.blank _ (by simp)) (by decide)
      have hrest : ',' ∉ w.rest := not_mem_of_blanks (w.blank _ (by simp)) (by decide)
      simp [arrow, hgap, hrest, w.formula_plain f (by simp [hf])]
  rw [text, List.mem_append, not_or]
  exact ⟨hname, hformula⟩

/-- No arrow stands in a name with its braces and blanks. -/
theorem cutAtWord_nameText : cutAtWord arrow w.nameText = none := by
  have hpad : occurs arrow w.nameText = occurs arrow w.name := by
    refine occurs_pad (w.not_mem_around (by decide)).1 ?_ w.name
    intro c hc hm
    refine (w.not_mem_around ?_).2 hc
    exact List.mem_cons_of_mem ',' hm
  rw [← occurs_eq_false_iff, hpad, w.name_arrow]

/-- **The name is found in its text**, with braces as without. -/
theorem strip_nameText : strip w.nameText = w.name := by
  have hopen : withoutBraces w.opening = w.lead ++ w.opened := by
    have hlead := withoutBraces_of_blanks (w.blank w.lead (by simp))
    have hopened := withoutBraces_of_blanks (w.blank w.opened (by simp))
    rw [opening, withoutBraces_append, withoutBraces_append, hlead, hopened]
    cases w.braced <;> simp [withoutBraces]
  have hclose : withoutBraces w.closing = w.closed ++ w.trail := by
    have hclosed := withoutBraces_of_blanks (w.blank w.closed (by simp))
    have htrail := withoutBraces_of_blanks (w.blank w.trail (by simp))
    rw [closing, withoutBraces_append, withoutBraces_append, hclosed, htrail]
    cases w.braced <;> simp [withoutBraces]
  have hname : withoutBraces w.name = w.name :=
    withoutBraces_of_not_mem (w.name_plain _ (by decide)) (w.name_plain _ (by decide))
  have hlead : ∀ c ∈ w.lead ++ w.opened, isBlank c = true :=
    List.forall_mem_append.2 ⟨w.blank _ (by simp), w.blank _ (by simp)⟩
  have htrail : ∀ c ∈ w.closed ++ w.trail, isBlank c = true :=
    List.forall_mem_append.2 ⟨w.blank _ (by simp), w.blank _ (by simp)⟩
  rw [strip, nameText, withoutBraces_append, withoutBraces_append, hopen, hclose, hname,
    trim_pad hlead htrail, trim_of_tight w.name_tight]

/-- **An entry declares its name and its formula.** -/
theorem declared_text : declared (trim w.text) = (w.name, w.formula) := by
  cases hf : w.formula with
  | none =>
    have htext : w.text = w.nameText := by simp [text, formulaText, hf]
    have hcut : cutAtWord ['-', '>'] (trim w.nameText) = none := by
      rw [← occurs_eq_false_iff]
      exact (occurs_arrow_trim w.nameText).trans (occurs_eq_false_iff.2 w.cutAtWord_nameText)
    rw [htext, declared, hcut, ← w.strip_nameText, ← strip_trim w.nameText]
  | some f =>
    have htext : w.text = w.nameText ++ '-' :: ([] ++ '>' :: (w.gap ++ f ++ w.rest)) := by
      simp [text, formulaText, hf, arrow]
    have htrim : trim w.text =
        trimStart w.nameText ++ '-' :: '>' :: trimEnd (w.gap ++ f ++ w.rest) := by
      rw [htext, trim_append_cons (by decide), trimEnd_append_cons (by decide)]
      rfl
    have hname : cutAtWord arrow (trimStart w.nameText) = none := by
      obtain ⟨lead, -, he⟩ := exists_eq_trimStart w.nameText
      exact cutAtWord_eq_none_of_append lead (he ▸ w.cutAtWord_nameText)
    have hformula : trim (trimEnd (w.gap ++ f ++ w.rest)) = f := by
      rw [trim_trimEnd, trim_pad (w.blank _ (by simp)) (w.blank _ (by simp)),
        trim_of_tight (w.formula_tight f hf)]
    rw [htrim, declared, cutAtWord_pair_append (by decide) hname]
    simp only [strip_trimStart, strip_nameText, hformula]

theorem trim_text_ne_nil : trim w.text ≠ [] := by
  intro h
  have hdeclared := w.declared_text
  rw [h] at hdeclared
  exact w.name_ne_nil (congrArg Prod.fst hdeclared).symm

end WrittenEntry

/-! ### Layouts -/

/-- What stands between two commas, or between a comma and an end of the line. -/
inductive Slot
  | vacant (blanks : List Char) (blank : ∀ c ∈ blanks, isBlank c = true)
  | entry (w : WrittenEntry)

namespace Slot

def text : Slot → List Char
  | vacant blanks _ => blanks
  | entry w => w.text

def entry? : Slot → Option WrittenEntry
  | vacant _ _ => none
  | entry w => some w

theorem comma_not_mem_text (s : Slot) : ',' ∉ s.text := by
  cases s with
  | vacant blanks blank => exact not_mem_of_blanks blank (by decide)
  | entry w => exact w.comma_not_mem_text

end Slot

/-- A line of a list: slots with commas between them.  A line without any is blank. -/
def listLine (slots : List Slot) : List Char := [','].intercalate (slots.map Slot.text)

theorem declarations_of_not_mem {s : List Char} (h : ',' ∉ s) :
    declarations [s] = if trim s = [] then [] else [trim s] := by
  rw [declarations, List.flatMap_singleton, splitOn_of_not_mem h, List.map_singleton,
    List.filter_singleton]
  by_cases hs : trim s = [] <;> simp [hs]

/-- **A comma does what a line end does.** -/
theorem declarations_join (a b : List Char) :
    declarations [a ++ ',' :: b] = declarations [a, b] := by
  rw [declarations, declarations, List.flatMap_singleton, splitOn_append_cons, List.flatMap_cons,
    List.flatMap_singleton]

/-- Texts with commas between them are texts on lines of their own. -/
theorem declarations_intercalate (texts : List (List Char)) :
    declarations [[','].intercalate texts] = declarations texts := by
  induction texts with
  | nil => rfl
  | cons s texts ih =>
    cases texts with
    | nil => rw [List.intercalate_singleton]
    | cons t texts =>
      rw [List.intercalate_cons_cons, List.append_assoc, List.singleton_append, declarations_join,
        ← List.singleton_append, declarations_append, ih, ← declarations_append,
        List.singleton_append]

theorem map_declared_slot (s : Slot) :
    (declarations [s.text]).map declared =
      s.entry?.toList.map fun w => (w.name, w.formula) := by
  rw [declarations_of_not_mem s.comma_not_mem_text]
  cases s with
  | vacant blanks blank => simp [Slot.text, Slot.entry?, trim_eq_nil_iff.2 blank]
  | entry w => simp [Slot.text, Slot.entry?, w.trim_text_ne_nil, w.declared_text]

/-- **A line declares its entries**, in order. -/
theorem map_declared_listLine (slots : List Slot) :
    (declarations [listLine slots]).map declared =
      (slots.filterMap Slot.entry?).map fun w => (w.name, w.formula) := by
  rw [listLine, declarations_intercalate]
  induction slots with
  | nil => rfl
  | cons s slots ih =>
    rw [List.map_cons, ← List.singleton_append, declarations_append, List.map_append, ih,
      map_declared_slot]
    cases s <;> rfl

theorem map_declared_lines (lines : List (List Slot)) :
    (declarations (lines.map listLine)).map declared =
      (lines.flatten.filterMap Slot.entry?).map fun w => (w.name, w.formula) := by
  induction lines with
  | nil => rfl
  | cons slots lines ih =>
    rw [List.map_cons, ← List.singleton_append, declarations_append, List.map_append, ih,
      map_declared_listLine, List.flatten_cons, List.filterMap_append, List.map_append]

/-- **A list of species declares its entries**: one species for each, in order, with its name, its
formula and the role of the list, whatever lines the entries stand on and however many commas and
blank lines there are besides.  Of any lines at all, two that follow each other can be joined by a
comma. -/
theorem species_written (role : Role) :
    (∀ lines : List (List Slot),
      species role (lines.map listLine) =
        (lines.flatten.filterMap Slot.entry?).map fun w => w.species role) ∧
    ∀ (front back : List (List Char)) (s t : List Char),
      species role (front ++ (s ++ ',' :: t) :: back) = species role (front ++ s :: t :: back) := by
  constructor
  · intro lines
    have hnames : ∀ d ∈ (lines.flatten.filterMap Slot.entry?).map (fun w => (w.name, w.formula)),
        d.1 ≠ [] := by
      rw [List.forall_mem_map]
      exact fun w _ => w.name_ne_nil
    rw [species, map_declared_lines, List.filter_eq_self.2 (by simpa using hnames), List.map_map]
    rfl
  · intro front back s t
    have hjoin : species role [s ++ ',' :: t] = species role [s, t] := by
      rw [species, declarations_join, species]
    rw [← List.singleton_append, species_append, species_append, hjoin, ← species_append,
      ← species_append]
    rfl

theorem tight_of_mem_none : ∀ f ∈ (none : Option (List Char)), Tight f :=
  fun f hf => absurd hf (Option.not_mem_none f)

/-- Carbon monoxide in braces. -/
def monoxideEntry : WrittenEntry where
  name := "CO".toList
  formula := none
  braced := true
  lead := []
  opened := [' ']
  closed := [' ']
  trail := []
  gap := []
  rest := []
  blank := fun s hs => forall_mem_of_all (by revert s; decide)
  name_ne_nil := by decide
  name_tight := by decide
  name_plain := forall_mem_of_all (by decide)
  name_arrow := by decide
  formula_tight := tight_of_mem_none
  formula_plain := by decide

/-- Nitrogen pentoxide with its formula. -/
def pentoxideEntry : WrittenEntry where
  name := "N2O5".toList
  formula := some "N2O5".toList
  braced := false
  lead := [' ']
  opened := []
  closed := []
  trail := []
  gap := [' ']
  rest := ['\t']
  blank := fun s hs => forall_mem_of_all (by revert s; decide)
  name_ne_nil := by decide
  name_tight := by decide
  name_plain := forall_mem_of_all (by decide)
  name_arrow := by decide
  formula_tight := by decide
  formula_plain := by decide

/-- Two entries with commas too many behind each and a blank line between them, or none. -/
theorem species_written_pentoxide :
    species .fixed ["\x7b CO \x7d, ,".toList, [], " N2O5-> N2O5\t,".toList] =
      [⟨"CO", .fixed, none⟩, ⟨"N2O5", .fixed, some "N2O5"⟩] ∧
    species .fixed ["\x7b CO \x7d, ,,".toList, " N2O5-> N2O5\t,".toList] =
      [⟨"CO", .fixed, none⟩, ⟨"N2O5", .fixed, some "N2O5"⟩] := by
  obtain ⟨hwritten, hjoin⟩ := species_written .fixed
  have hlist := hwritten [
    [.entry monoxideEntry, .vacant [' '] (forall_mem_of_all (by decide)), .vacant [] nofun], [],
    [.entry pentoxideEntry, .vacant [] nofun]]
  exact ⟨hlist, (hjoin [] [" N2O5-> N2O5\t,".toList] "\x7b CO \x7d, ,".toList []).trans hlist⟩

end AtmosChem.Mozart
