import AtmosChem.Proofs.DeclaredNames
import AtmosChem.Proofs.DeclaredTerms

/-!
# The species of a translation

Whatever a text is like, the species that come of it are in order: fixed ones first, solved ones
with the tolerance that was asked for, all of them with names that can be written down.  A name is
rid of its braces before its blanks are taken off, so neither is left (`not_mem_strip`,
`tight_strip`), and a name is there if and only if there was more than braces and blanks
(`strip_ne_nil_iff`).

* `Mechanism.WellDeclared`: what holds of the species of a mechanism.
* `Kpp.species_eq`: a line of KPP declares a species if and only if it is no comment and names one.
* `Format.wellDeclared_translate`: a translation is well declared.
-/

namespace AtmosChem

open Text

/-! ### Names -/

theorem not_mem_strip {c : Char} (h : c ∈ ['\x7b', '\x7d']) (s : List Char) : c ∉ strip s :=
  fun hm => not_mem_withoutBraces h s (mem_of_mem_trim hm)

theorem tight_strip (s : List Char) : Tight (strip s) := tight_trim (withoutBraces s)

/-- Something is left of a text if there is more to it than braces and blanks. -/
theorem strip_ne_nil_iff {s : List Char} :
    strip s ≠ [] ↔ ∃ c ∈ s, isBlank c = false ∧ c ∉ ['\x7b', '\x7d'] := by
  rw [strip, Ne, trim_eq_nil_iff]
  push Not
  simp only [withoutBraces, List.mem_filter, Bool.and_eq_true, decide_eq_true_eq, List.mem_cons,
    List.not_mem_nil, or_false, not_or, ne_eq, Bool.not_eq_true]
  constructor
  · rintro ⟨c, ⟨hc, hbrace⟩, hb⟩
    exact ⟨c, hc, hb, hbrace⟩
  · rintro ⟨c, hc, hb, hbrace⟩
    exact ⟨c, ⟨hc, hbrace⟩, hb⟩

/-- A name that can be written down: there is something to it, and it has no braces and no blanks
at its ends. -/
structure ProperName (name : List Char) : Prop where
  ne_nil : name ≠ []
  plain : ∀ c ∈ ['\x7b', '\x7d'], c ∉ name
  tight : Tight name

theorem properName_strip {s : List Char} (h : strip s ≠ []) : ProperName (strip s) :=
  ⟨h, fun _ hc => not_mem_strip hc s, tight_strip s⟩

/-! ### Lines of KPP -/

namespace Kpp

/-- Blanks around a line make no difference to what it declares. -/
theorem declaredName_trim (line : List Char) : declaredName (trim line) = declaredName line := by
  obtain ⟨lead, trail, hl, ht, he⟩ := exists_eq_trim line
  have hlead : '=' ∉ lead := not_mem_of_blanks hl (by decide)
  have htrail : ∃ rest, (∀ c ∈ rest, isBlank c = true) ∧
      before '=' (trim line ++ trail) = before '=' (trim line) ++ rest := by
    cases hcut : cutAt '=' (trim line) with
    | none =>
      have hnot : '=' ∉ trim line := cutAt_eq_none_iff.1 hcut
      refine ⟨trail, ht, ?_⟩
      rw [before_append_of_not_mem hnot, before_of_not_mem hnot,
        before_of_not_mem (not_mem_of_blanks ht (by decide))]
    | some p =>
      refine ⟨[], isBlank_of_mem_nil, ?_⟩
      rw [before, before, cutAt_append_of_eq_some hcut, hcut, List.append_nil]
      rfl
  obtain ⟨rest, hrest, hbefore⟩ := htrail
  have hline : before '=' line = lead ++ before '=' (trim line) ++ rest := by
    conv_lhs => rw [he]
    rw [List.append_assoc, before_append_of_not_mem hlead, hbefore, List.append_assoc]
  rw [declaredName, declaredName, hline, strip_pad hl hrest]

/-- Whether a line declares a species: it is neither blank nor a comment, and what stands in front
of the sign is more than braces and blanks. -/
def declares (line : List Char) : Bool :=
  isContent line && (before '=' line).any fun c => !isBlank c && decide (c ∉ ['\x7b', '\x7d'])

/-- The species that a line declares. -/
def speciesOf (role : Role) (line : List Char) : Species :=
  ⟨String.ofList (declaredName line), role, none⟩

theorem declares_eq (line : List Char) :
    declares line = (decide (declaredName line ≠ []) && isContent line) := by
  have hname : (before '=' line).any (fun c => !isBlank c && decide (c ∉ ['\x7b', '\x7d'])) =
      decide (declaredName line ≠ []) := by
    rw [Bool.eq_iff_iff, decide_eq_true_eq, declaredName, strip_ne_nil_iff, List.any_eq_true]
    simp only [Bool.and_eq_true, Bool.not_eq_true', decide_eq_true_eq]
  rw [declares, hname, Bool.and_comm]

/-- **One species for each line that declares one**, in order. -/
theorem species_eq (role : Role) (lines : List (List Char)) :
    species role lines = (lines.filter declares).map (speciesOf role) := by
  have hnames : (declarations lines).map declaredName =
      (lines.filter isContent).map declaredName := by
    rw [declarations, List.map_map]
    exact List.map_congr_left fun line _ => declaredName_trim line
  have hfilter : lines.filter declares =
      (lines.filter isContent).filter fun line => declaredName line ≠ [] := by
    rw [List.filter_filter]
    exact List.filter_congr fun line _ => declares_eq line
  rw [species, hnames, List.filter_map, List.map_map, hfilter]
  rfl

end Kpp

/-! ### Species -/

namespace Mechanism

/-- What holds of the species of a mechanism that was translated with some tolerance. -/
structure WellDeclared (m : Mechanism) (tolerance : Float) : Prop where
  split : m.species = (m.species.filter fun s => s.role.isFixed) ++
    m.species.filter fun s => !s.role.isFixed
  ordered : m.species.Pairwise fun s s' => s'.role.isFixed = true → s.role.isFixed = true
  fixed : ∀ s ∈ m.species, s.role.isFixed = true → s.role.tolerance? = none
  solved : ∀ s ∈ m.species, s.role.isFixed = false → s.role.tolerance? = some tolerance
  named : ∀ s ∈ m.species, ProperName s.name.toList

/-- Fixed species with solved ones after them are well declared if they are named. -/
theorem wellDeclared_of_append {m : Mechanism} {tolerance : Float} {fixed solved : List Species}
    (hspecies : m.species = fixed ++ solved) (hfixed : ∀ s ∈ fixed, s.role = .fixed)
    (hsolved : ∀ s ∈ solved, s.role = .solved tolerance)
    (hnamed : ∀ s ∈ m.species, ProperName s.name.toList) : m.WellDeclared tolerance := by
  have hf : ∀ s ∈ fixed, s.role.isFixed = true := fun s hs => by rw [hfixed s hs]; rfl
  have hs : ∀ s ∈ solved, s.role.isFixed = false := fun s hs => by rw [hsolved s hs]; rfl
  have hrole : ∀ s ∈ m.species, s.role = .fixed ∨ s.role = .solved tolerance := by
    intro s hmem
    rw [hspecies, List.mem_append] at hmem
    exact hmem.imp (hfixed s) (hsolved s)
  refine ⟨?_, ?_, ?_, ?_, hnamed⟩
  · rw [hspecies, List.filter_append, List.filter_append, List.filter_eq_self.2 hf,
      List.filter_eq_nil_iff.2 (by simpa using hs), List.filter_eq_nil_iff.2 (by simpa using hf),
      List.filter_eq_self.2 (by simpa using hs), List.append_nil, List.nil_append]
  · rw [hspecies, List.pairwise_append]
    refine ⟨?_, ?_, fun s hmem _ _ _ => hf s hmem⟩
    · exact List.pairwise_of_forall_mem_list fun s hmem _ _ _ => hf s hmem
    · refine List.pairwise_of_forall_mem_list fun _ _ s hmem h => ?_
      rw [hs s hmem] at h
      exact absurd h (by decide)
  · intro s hmem hkind
    rcases hrole s hmem with he | he <;> rw [he] at hkind ⊢
    · rfl
    · exact absurd hkind Bool.false_ne_true
  · intro s hmem hkind
    rcases hrole s hmem with he | he <;> rw [he] at hkind ⊢
    · exact absurd hkind (by decide)
    · rfl

end Mechanism

namespace Format

/-- Every species is named by a text that was rid of its braces and outer blanks. -/
theorem properName_of_mem_species {f : Format} {role : Role} {lines : List (List Char)}
    {s : Species} (h : s ∈ f.species role lines) : ProperName s.name.toList := by
  have hstrip : ∃ t, s.name.toList = strip t ∧ strip t ≠ [] := by
    cases f with
    | kpp =>
      obtain ⟨name, hname, rfl⟩ := List.mem_map.1 h
      obtain ⟨hmem, hne⟩ := List.mem_filter.1 hname
      obtain ⟨line, -, rfl⟩ := List.mem_map.1 hmem
      exact ⟨_, String.toList_ofList, of_decide_eq_true hne⟩
    | mozart =>
      obtain ⟨d, hd, rfl⟩ := List.mem_map.1 h
      obtain ⟨hmem, hne⟩ := List.mem_filter.1 hd
      obtain ⟨entry, -, rfl⟩ := List.mem_map.1 hmem
      have hne := of_decide_eq_true hne
      simp only [Mozart.declared] at hne ⊢
      cases hcut : cutAtWord ['-', '>'] entry <;> rw [hcut] at hne
      · exact ⟨_, String.toList_ofList, hne⟩
      · exact ⟨_, String.toList_ofList, hne⟩
  obtain ⟨t, he, hne⟩ := hstrip
  exact he ▸ properName_strip hne

/-- **A translation is well declared**, in both formats: its species are the fixed ones and then the
solved ones, fixed ones without a tolerance and solved ones with the given one, all with proper
names.  In KPP there is one species, in order, for each line of the sections of species that
declares one. -/
theorem wellDeclared_translate {f : Format} {text : List Char} {name : String} {tolerance : Float}
    {m : Mechanism} {unknowns : List String}
    (h : (f.translate text name tolerance).outcome = .ok (m, unknowns)) :
    m.WellDeclared tolerance ∧
    (f = .kpp → m.species =
      ((Section.linesUnder "DEFFIX".toList (Section.assign text)).filter Kpp.declares).map
          (Kpp.speciesOf .fixed) ++
        ((Section.linesUnder "DEFVAR".toList (Section.assign text)).filter Kpp.declares).map
          (Kpp.speciesOf (.solved tolerance))) := by
  obtain ⟨t, -, rfl, -⟩ := exists_of_translate h
  constructor
  · refine Mechanism.wellDeclared_of_append rfl (fun _ => role_of_mem_species)
      (fun _ => role_of_mem_species) ?_
    exact List.forall_mem_append.2
      ⟨fun _ => properName_of_mem_species, fun _ => properName_of_mem_species⟩
  · rintro rfl
    exact congrArg₂ (· ++ ·) (Kpp.species_eq _ _) (Kpp.species_eq _ _)

/-- A section that is opened twice, a comment, a line that names nothing and a name in braces. -/
def declarationsText : List Char := "#DEFVAR
O3 = IGNORE ; \x7bozone\x7d
// NO2 = IGNORE ;
\x7b \x7d = IGNORE ;
#DEFFIX
\x7b M \x7d = IGNORE ;
#DEFVAR
NO".toList

def declarationsMechanism : Mechanism where
  name := "m"
  species := [⟨"M", .fixed, none⟩, ⟨"O3", .solved defaultTolerance, none⟩,
    ⟨"NO", .solved defaultTolerance, none⟩]
  reactions := []

theorem wellDeclared_declarationsMechanism :
    (kpp.translate declarationsText "m" defaultTolerance).outcome =
      .ok (declarationsMechanism, []) ∧
    declarationsMechanism.WellDeclared defaultTolerance ∧
    declarationsMechanism.species =
      ((Section.linesUnder "DEFFIX".toList (Section.assign declarationsText)).filter
          Kpp.declares).map (Kpp.speciesOf .fixed) ++
        ((Section.linesUnder "DEFVAR".toList (Section.assign declarationsText)).filter
          Kpp.declares).map (Kpp.speciesOf (.solved defaultTolerance)) := by
  have h : (kpp.translate declarationsText "m" defaultTolerance).outcome =
      .ok (declarationsMechanism, []) := rfl
  obtain ⟨hwell, hspecies⟩ := wellDeclared_translate h
  exact ⟨h, hwell, hspecies rfl⟩

end Format

end AtmosChem
