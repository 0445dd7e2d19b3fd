import Mathlib.Data.List.Nodup
import AtmosChem.Proofs.FilePlaces
import AtmosChem.Proofs.FiniteDoubles
import AtmosChem.Proofs.ReactionRecords
import AtmosChem.Settings.CommandLine

/-!
# Settings read back

The file of settings is an object with a field for each setting.  Any of the fields may be deleted
and the others put in another order; what remains is read back, and what is missing is as it is
initially.  The command line comes before both.

A tolerance that is not finite is written as null, which no tolerance is read from.

* `Settings.ofJson?_remaining`: what is read from some of the fields.
* `Options.settings_of_saved`: the settings of a run whose file was saved and edited.
-/

namespace AtmosChem

open Json (Kept)

/-! ### Fields that remain -/

theorem Json.length_valuesOf_le {fields : List (String × Json)}
    (hdistinct : (fields.map Prod.fst).Nodup) (key : String) :
    (valuesOf key fields).length ≤ 1 := by
  have hcount : (valuesOf key fields).length = (fields.map Prod.fst).count key := by
    rw [valuesOf, List.length_map, List.count, List.countP_map, List.countP_eq_length_filter]
    rfl
  rw [hcount]
  exact List.nodup_iff_count_le_one.1 hdistinct key

/-- **Under distinct keys**, a field that remains is found by its key, wherever it stands. -/
theorem lookup_of_remaining {fields remaining kept : List (String × Json)}
    (hdistinct : (fields.map Prod.fst).Nodup) (hremaining : remaining.Sublist fields)
    (hkept : kept.Perm remaining) {key : String} {v : Json} (hv : (key, v) ∈ fields) :
    kept.lookup key = if key ∈ kept.map Prod.fst then some v else none := by
  cases hlookup : kept.lookup key with
  | none =>
    rw [if_neg]
    intro hkey
    obtain ⟨f, hf, rfl⟩ := List.mem_map.1 hkey
    have hne := List.lookup_eq_none_iff.1 hlookup f hf
    simp at hne
  | some w =>
    obtain ⟨before, after, rfl, -⟩ := List.lookup_eq_some_iff.1 hlookup
    have hmem : (key, w) ∈ before ++ (key, w) :: after := by simp
    have hw : (key, w) ∈ fields := hremaining.subset (hkept.subset hmem)
    have hsame := List.inj_on_of_nodup_map hdistinct hw hv rfl
    rw [if_pos (List.mem_map_of_mem (f := Prod.fst) hmem), (Prod.mk.inj hsame).2]

namespace Settings

/-- The fields of settings. -/
def fields (c : Settings) : List (String × Json) := [
  ("format", .ofText c.format.key),
  ("input_dir", .ofText c.inputDirectory),
  ("input_name", .ofText c.inputName),
  ("output_dir", .ofText c.outputDirectory),
  ("mechanism", .ofText c.mechanism),
  ("tolerance", .ofFloat c.tolerance),
  ("log_file", c.logFile.elim .null .ofText),
  ("debug", .bool c.debug)]

theorem toJson_eq (c : Settings) : c.toJson = .record c.fields := rfl

theorem map_fst_fields (c : Settings) : c.fields.map Prod.fst = fieldNames := rfl

theorem nodup_keys_fields (c : Settings) : (c.fields.map Prod.fst).Nodup := by
  rw [map_fst_fields]
  decide

theorem logFileOfJson?_elim (logFile : Option String) :
    logFileOfJson? (logFile.elim .null .ofText) = some logFile := by
  cases logFile <;> rfl

theorem ofWord?_key (f : Format) : Format.ofWord? (.ofText f.key) = some f := f.ofKey?_key

variable {c : Settings} {remaining kept : List (String × Json)}

/-- A field that remains is read, and one that does not is as it is initially. -/
theorem given_lookup (hremaining : remaining.Sublist c.fields) (hkept : kept.Perm remaining)
    {α : Type} (read : Json → Option α) (key : String) {v : Json} {x : α}
    (hv : (key, v) ∈ c.fields) (hread : read v = some x) (initially : α) :
    given read initially (kept.lookup key) =
      some (if key ∈ kept.map Prod.fst then x else initially) := by
  rw [lookup_of_remaining c.nodup_keys_fields hremaining hkept hv]
  split
  · exact hread
  · rfl

/-- The settings of which some fields are kept, by their names. -/
def restrict (c : Settings) (names : List String) : Settings where
  format := if "format" ∈ names then c.format else initial.format
  inputDirectory := if "input_dir" ∈ names then c.inputDirectory else initial.inputDirectory
  inputName := if "input_name" ∈ names then c.inputName else initial.inputName
  outputDirectory := if "output_dir" ∈ names then c.outputDirectory else initial.outputDirectory
  mechanism := if "mechanism" ∈ names then c.mechanism else initial.mechanism
  tolerance := if "tolerance" ∈ names then c.tolerance else initial.tolerance
  logFile := if "log_file" ∈ names then c.logFile else initial.logFile
  debug := if "debug" ∈ names then c.debug else initial.debug

@[simp] theorem restrict_fieldNames (c : Settings) : c.restrict fieldNames = c := rfl

/-- **The fields that remain are read**, if the tolerance is. -/
theorem ofJson?_remaining (hremaining : remaining.Sublist c.fields) (hkept : kept.Perm remaining) :
    ofJson? (.record kept) =
      (given Json.float? initial.tolerance (kept.lookup "tolerance")).map fun x =>
        { c.restrict (kept.map Prod.fst) with tolerance := x } := by
  have hfields := Json.fields?_record kept
  have hdistinct : (kept.map Prod.fst).Nodup :=
    ((hkept.map Prod.fst).nodup_iff).2 (c.nodup_keys_fields.sublist (hremaining.map Prod.fst))
  have honce : ¬ (fieldNames.any fun name => (Json.valuesOf name kept).length > 1) = true := by
    rw [List.any_eq_true]
    rintro ⟨name, -, h⟩
    exact absurd (Json.length_valuesOf_le hdistinct name) (Nat.not_le.2 (of_decide_eq_true h))
  rw [Json.record] at hfields ⊢
  rw [ofJson?, hfields]
  · simp only [Option.bind_eq_bind, Option.bind_some, if_neg honce, ofFields?]
    -- every field that remains can be read, apart from a tolerance that is not finite
    have hgiven {α : Type} (read : Json → Option α) (key : String) {v : Json} {x : α} :=
      given_lookup (v := v) (x := x) hremaining hkept read key
    have hformat := hgiven Format.ofWord? "format" (by simp [fields]) (ofWord?_key c.format)
    have hlog := hgiven logFileOfJson? "log_file" (by simp [fields]) (logFileOfJson?_elim c.logFile)
    have hdebug := hgiven Json.bool? "debug" (v := .bool c.debug) (by simp [fields]) rfl
    have htext (key : String) {s : String} (hs : (key, .ofText s) ∈ c.fields) :=
      hgiven Json.text? key hs rfl
    rw [hformat, htext "input_dir" (s := c.inputDirectory) (by simp [fields]),
      htext "input_name" (s := c.inputName) (by simp [fields]),
      htext "output_dir" (s := c.outputDirectory) (by simp [fields]),
      htext "mechanism" (s := c.mechanism) (by simp [fields]), hlog, hdebug]
    cases given Json.float? initial.tolerance (kept.lookup "tolerance") <;> rfl
  · simp

end Settings

/-- What is written for a double that is not finite is no number. -/
theorem Json.float?_ofFloat_of_not_finite {x : Float} (h : x.isFinite = false) :
    (ofFloat x).float? = none := by
  rw [ofFloat]
  split
  next negative d hd =>
    have hfinite := (Decimal.isFinite_iff_ofFloat Decimal.Layout.document.tie x).2 ⟨negative, d, hd⟩
    rw [h] at hfinite
    exact absurd hfinite (by decide)
  · rfl

/-! ### The file -/

namespace Settings

theorem read?_text (c : Settings) : Json.read? c.text = some (.record c.fields) := by
  rw [text, toJson_eq]
  exact Json.read?_render _ _

theorem write_of_save {c : Settings} {t t' : FileTree} {path : String}
    (h : c.save t path = .ok t') : t.write path c.text.toUTF8 = .ok t' := by
  cases hw : t.write path c.text.toUTF8 with
  | error fault =>
    rw [save, hw] at h
    exact absurd h nofun
  | ok t'' =>
    rw [save, hw] at h
    rw [Except.ok.inj h]

theorem load_eq {t : FileTree} {path text : String} {v : Json}
    (htext : t.readText path = .ok text) (hread : Json.read? text = some v) :
    load t path = (ofJson? v).elim (.error .document) .ok := by
  cases hv : ofJson? v with
  | none => simp only [load, htext, hread, Option.bind_some, hv, Option.elim_none]
  | some s => simp only [load, htext, hread, Option.bind_some, hv, Option.elim_some]

/-- **What remains of a file of settings is loaded**, if its tolerance is finite. -/
theorem load_remaining {c : Settings} {remaining kept : List (String × Json)}
    (htolerance : Kept c.tolerance) (hremaining : remaining.Sublist c.fields)
    (hkept : kept.Perm remaining) {t : FileTree} {path text : String}
    (htext : t.readText path = .ok text) (hread : Json.read? text = some (.record kept)) :
    load t path = .ok (c.restrict (kept.map Prod.fst)) := by
  have hgiven := given_lookup hremaining hkept Json.float? "tolerance" (by simp [fields])
    htolerance initial.tolerance
  rw [load_eq htext hread, ofJson?_remaining hremaining hkept, hgiven]
  rfl

/-- **Settings that are saved are loaded again**, if their tolerance is finite. -/
theorem load_of_save {c : Settings} (htolerance : Kept c.tolerance) {t t' : FileTree}
    {path : String} (h : c.save t path = .ok t') : load t' path = .ok c := by
  have htext := FileTree.readText_of_write (write_of_save h)
  rw [load_remaining htolerance (.refl _) (.refl _) htext c.read?_text, map_fst_fields,
    restrict_fieldNames]

/-- **A tolerance that is not finite cannot be loaded again.** -/
theorem load_of_save_of_not_finite {c : Settings} (htolerance : c.tolerance.isFinite = false)
    {t t' : FileTree} {path : String} (h : c.save t path = .ok t') :
    load t' path = .error .document := by
  have hlookup : c.fields.lookup "tolerance" = some (.ofFloat c.tolerance) := rfl
  have hnone : ofJson? (.record c.fields) = none := by
    rw [ofJson?_remaining (.refl _) (.refl _), hlookup, given,
      Json.float?_ofFloat_of_not_finite htolerance]
    rfl
  rw [load_eq (FileTree.readText_of_write (write_of_save h)) c.read?_text, hnone, Option.elim_none]

end Settings

/-- **Settings survive saving, and the file may be edited.**  What is saved is an object with the
fields of the settings.  Let the tolerance be finite, and come back from its text as it was.

* Of an object with some of these fields, in any order, and a command line that names its file, each
  setting is what the command line says; if it says nothing, what the field says; and if the field
  is missing, what it is initially.  Debugging is on if the flag is given or the field says so.
* The file that is saved is loaded as the settings.

If the tolerance is not finite, what is saved cannot be loaded. -/
theorem Options.settings_of_saved (c : Settings)
    (hback : c.tolerance.isFinite = true → Kept c.tolerance) :
    Json.read? c.text = some (.record c.fields) ∧
    (c.tolerance.isFinite = true →
      (∀ remaining kept : List (String × Json), remaining.Sublist c.fields → kept.Perm remaining →
        ∀ (t : FileTree) (path text : String), t.readText path = .ok text →
          Json.read? text = some (.record kept) → ∀ o : Options, o.config = some path →
            let names := kept.map Prod.fst
            let initial := Settings.initial
            o.settings t = .ok {
              format := o.format.getD (if "format" ∈ names then c.format else initial.format)
              inputDirectory := o.inputDirectory.getD
                (if "input_dir" ∈ names then c.inputDirectory else initial.inputDirectory)
              inputName := o.inputName.getD
                (if "input_name" ∈ names then c.inputName else initial.inputName)
              outputDirectory := o.outputDirectory.getD
                (if "output_dir" ∈ names then c.outputDirectory else initial.outputDirectory)
              mechanism := o.mechanism.getD
                (if "mechanism" ∈ names then c.mechanism else initial.mechanism)
              tolerance := o.tolerance.getD
                (if "tolerance" ∈ names then c.tolerance else initial.tolerance)
              logFile := o.logFile.or (if "log_file" ∈ names then c.logFile else initial.logFile)
              debug := (if "debug" ∈ names then c.debug else initial.debug) || o.debug }) ∧
      ∀ (t t' : FileTree) (path : String), c.save t path = .ok t' →
        Settings.load t' path = .ok c) ∧
    (c.tolerance.isFinite = false → ∀ (t t' : FileTree) (path : String),
      c.save t path = .ok t' → Settings.load t' path = .error .document) := by
  refine ⟨c.read?_text, ?_, ?_⟩
  · intro hfinite
    refine ⟨?_, fun t t' path h => Settings.load_of_save (hback hfinite) h⟩
    intro remaining kept hremaining hkept t path text htext hread o hpath
    have hload := Settings.load_remaining (hback hfinite) hremaining hkept htext hread
    rw [settings, hpath]
    simp only [hload]
    rfl
  · intro hnot t t' path h
    exact Settings.load_of_save_of_not_finite hnot h

/-- Settings of which each field differs from the initial ones. -/
def mozartSettings : Settings where
  format := .mozart
  inputDirectory := "data \"mozart\""
  inputName := "moz"
  outputDirectory := "out\\put"
  mechanism := "MOZ"
  tolerance := 1.0e-10
  logFile := some "moz.log"
  debug := true

/-- The same without a number for a tolerance. -/
def brokenSettings : Settings := { mozartSettings with tolerance := 0.0 / 0.0 }

/-- Four of the fields, in the order from last to first. -/
def mozartFields : List (String × Json) :=
  (mozartSettings.fields.filter fun f =>
    f.1 ∈ ["format", "input_dir", "tolerance", "log_file"]).reverse

/-- A tree with one file. -/
def settingsTree (text : String) : FileTree := ⟨[(["moz.json"], .file text.toUTF8)]⟩

/-- A command line with the file of settings, a name and another directory. -/
def mozartOptions : Options :=
  { Options.none with
    config := some "moz.json"
    inputDirectory := some "more"
    inputName := some "moz" }

theorem settings_of_saved_mozartSettings :
    mozartSettings.save .empty "moz.json" = .ok (settingsTree mozartSettings.text) ∧
    Settings.load (settingsTree mozartSettings.text) "moz.json" = .ok mozartSettings ∧
    mozartOptions.settings (settingsTree ((Json.record mozartFields).render none)) =
      .ok { Settings.initial with
        format := .mozart
        inputDirectory := "more"
        inputName := "moz"
        tolerance := 1.0e-10
        logFile := some "moz.log" } ∧
    Settings.load (settingsTree brokenSettings.text) "moz.json" = .error .document := by
  have hsave : ∀ c : Settings, c.save .empty "moz.json" = .ok (settingsTree c.text) := fun _ => rfl
  have hfinite : mozartSettings.tolerance.isFinite = true := by decide +kernel
  have hback : Kept mozartSettings.tolerance := by decide +kernel
  have hnot : brokenSettings.tolerance.isFinite = false := by decide +kernel
  obtain ⟨-, hsaved, -⟩ := Options.settings_of_saved mozartSettings fun _ => hback
  obtain ⟨hedited, hload⟩ := hsaved hfinite
  have hbroken := (Options.settings_of_saved brokenSettings fun h => by simp [hnot] at h).2.2 hnot
  refine ⟨hsave _, hload _ _ _ (hsave _), ?_, hbroken _ _ _ (hsave _)⟩
  exact hedited _ mozartFields List.filter_sublist (List.reverse_perm _) _ "moz.json" _
    (FileTree.readText_of_read rfl) (Json.read?_render _ _) mozartOptions rfl

end AtmosChem
