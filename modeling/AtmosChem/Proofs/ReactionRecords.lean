import AtmosChem.Mechanism.Document
import AtmosChem.Proofs.WrittenDocuments

/-!
# Reactions read back

The document of the reactions holds all there is to a reaction.  Its text has one value
(`Json.read?_render`), and every record in it is read as the reaction that it was written for: the
kind of law under its tag, every parameter under its name, both sides with their species in order.

Two things are asked of a reaction.  No species stands twice on one side, as the sides that are read
from equations see to (`Amounts.distinct_add`).  And the numbers come back as they were
(`Json.Kept`); a number that is not finite is written as null and does not.

* `Reaction.ofJson?_toJson`: a record is read as its reaction.
* `Mechanism.read?_reactionsText`: the document is read as the reactions of its mechanism.
-/

namespace AtmosChem

theorem mapM_eq_some_map {α β : Type} {f : α → Option β} {g : α → β} {xs : List α}
    (h : ∀ x ∈ xs, f x = some (g x)) : xs.mapM f = some (xs.map g) := by
  induction xs with
  | nil => rfl
  | cons x xs ih =>
    have hrest := ih fun y hy => h y (List.mem_cons_of_mem x hy)
    simp [List.mapM_cons, h x List.mem_cons_self, hrest]

namespace Json

/-- Whether a double comes back from a document as it was. -/
def Kept (x : Float) : Prop := (ofFloat x).float? = some x

instance (x : Float) : Decidable (Kept x) :=
  inferInstanceAs (Decidable ((ofFloat x).float? = some x))

/-- Reading by scaling may miss a double that has a great exponent. -/
example : Kept 2.4e-14 ∧ ¬Kept 6.9e-31 := by decide +kernel

/-! ### Fields -/

theorem fields?_record (fields : List (String × Json)) : (record fields).fields? = some fields := by
  rw [record, fields?, List.mapM_map, mapM_eq_some_map (g := id), List.map_id]
  intro f _
  rfl

theorem valuesOf_append (key : String) (fields others : List (String × Json)) :
    valuesOf key (fields ++ others) = valuesOf key fields ++ valuesOf key others := by
  simp [valuesOf]

theorem valuesOf_of_not_mem {key : String} {fields : List (String × Json)}
    (h : key ∉ fields.map Prod.fst) : valuesOf key fields = [] := by
  rw [valuesOf, List.map_eq_nil_iff, List.filter_eq_nil_iff]
  intro f hf heq
  exact h (of_decide_eq_true heq ▸ List.mem_map_of_mem hf)

/-- **Under distinct keys** every value is found by its key. -/
theorem one?_eq_some {key : String} {v : Json} {fields : List (String × Json)}
    (hdistinct : (fields.map Prod.fst).Nodup) (h : (key, v) ∈ fields) :
    one? key fields = some v := by
  obtain ⟨before, after, rfl⟩ := List.append_of_mem h
  rw [List.map_append, List.map_cons, List.nodup_append] at hdistinct
  obtain ⟨-, hafter, hdisjoint⟩ := hdistinct
  have hkey : key ∉ after.map Prod.fst := (List.nodup_cons.1 hafter).1
  have hbefore : key ∉ before.map Prod.fst := fun hk =>
    hdisjoint key hk key List.mem_cons_self rfl
  have hvalues : valuesOf key (before ++ (key, v) :: after) = [v] := by
    rw [valuesOf_append, valuesOf_of_not_mem hbefore, List.nil_append, ← List.singleton_append,
      valuesOf_append, valuesOf_of_not_mem hkey]
    simp [valuesOf]
  rw [one?, hvalues]

/-- The numbers of a record are found by their names. -/
theorem floats?_record {parameters : List (String × Float)} {fields : List (String × Json)}
    (hdistinct : (fields.map Prod.fst).Nodup)
    (hmem : ∀ p ∈ parameters, (p.1, ofFloat p.2) ∈ fields)
    (hkept : ∀ p ∈ parameters, Kept p.2) :
    (record fields).floats? (parameters.map Prod.fst) = some (parameters.map Prod.snd) := by
  have hvalues : (parameters.map Prod.fst).mapM (fun name => (one? name fields).bind float?) =
      some (parameters.map Prod.snd) := by
    rw [List.mapM_map]
    refine mapM_eq_some_map ?_
    intro p hp
    rw [Function.comp_apply, one?_eq_some hdistinct (hmem p hp), Option.bind_some]
    exact hkept p hp
  have hfields := fields?_record fields
  rw [record] at hfields ⊢
  rw [floats?, hfields]
  · exact hvalues
  · exact nofun

/-! ### Shape -/

/-- A number that comes back is in range. -/
theorem readable_ofFloat {x : Float} (h : Kept x) : (ofFloat x).readable = true := by
  rw [Kept] at h
  cases hx : ofFloat x with
  | number n =>
    rw [hx, float?] at h
    rw [readable, h, Option.isSome_some]
  | _ => simp [hx, float?] at h

theorem depth_ofFloat (x : Float) : (ofFloat x).depth = 0 := by
  rw [ofFloat]
  split <;> rw [depth] <;> simp

theorem readable_record {fields : List (String × Json)} (h : ∀ f ∈ fields, f.2.readable = true) :
    (record fields).readable = true := by
  rw [record, readable]
  induction fields with
  | nil => rfl
  | cons f fields ih =>
    rw [List.map_cons, readableFields, h f List.mem_cons_self,
      ih fun g hg => h g (List.mem_cons_of_mem f hg)]
    rfl

theorem depth_record_le {fields : List (String × Json)} {n : Nat}
    (h : ∀ f ∈ fields, f.2.depth ≤ n) : (record fields).depth ≤ n + 1 := by
  rw [record, depth]
  refine Nat.succ_le_succ ?_
  induction fields with
  | nil => exact Nat.zero_le n
  | cons f fields ih =>
    rw [List.map_cons, depthFields]
    exact Nat.max_le.2 ⟨h f List.mem_cons_self, ih fun g hg => h g (List.mem_cons_of_mem f hg)⟩

end Json

/-! ### Rate laws -/

theorem RateKind.ofTag?_tag (k : RateKind) : ofTag? k.tag = some k := by
  cases k <;> decide

namespace RateLaw

/-- The keys of a law's record: the tag and the names of the parameters. -/
theorem nodup_keys_fields (l : RateLaw Float) : (l.fields.map Prod.fst).Nodup := by
  cases l <;> simp [fields, parameters, Arrhenius.names, Arrhenius.toList, Falloff.names,
    Falloff.toList]

/-- No parameter has the name of another field of a reaction. -/
theorem not_mem_keys_fields (l : RateLaw Float) :
    ∀ k ∈ ["reactants", "products", "MUSICA name"], k ∉ l.fields.map Prod.fst := by
  cases l <;> simp [fields, parameters, Arrhenius.names, Arrhenius.toList, Falloff.names,
    Falloff.toList]

theorem mem_fields_of_mem_parameters {l : RateLaw Float} {p : String × Float}
    (h : p ∈ l.parameters) : (p.1, Json.ofFloat p.2) ∈ l.fields :=
  List.mem_cons_of_mem _ (List.mem_map_of_mem (f := fun p => (p.1, Json.ofFloat p.2)) h)

/-- **A law is read from the parameters of its record.** -/
theorem ofParameters?_record {l : RateLaw Float} (h : ∀ p ∈ l.parameters, Json.Kept p.2) :
    ofParameters? l.kind (.record l.fields) = some l := by
  have hfloats := Json.floats?_record l.nodup_keys_fields
    (fun p hp => mem_fields_of_mem_parameters hp) h
  cases l with
  | arrhenius p =>
    have hnames : (Json.record (arrhenius p).fields).floats? Arrhenius.names = some p.toList :=
      hfloats
    rw [kind, ofParameters?, hnames]
    rfl
  | troe p =>
    have hnames : (Json.record (troe p).fields).floats? Falloff.names = some p.toList := hfloats
    rw [kind, ofParameters?, hnames]
    rfl
  | ternaryChemicalActivation p =>
    have hnames : (Json.record (ternaryChemicalActivation p).fields).floats? Falloff.names =
        some p.toList := hfloats
    rw [kind, ofParameters?, hnames]
    rfl
  | photolysis => rfl
  | firstOrderLoss a =>
    have hnames : (Json.record (firstOrderLoss a).fields).floats? ["A"] = some [a] := hfloats
    rw [kind, ofParameters?, hnames]
    rfl

theorem readable_record_fields {l : RateLaw Float} (h : ∀ p ∈ l.parameters, Json.Kept p.2) :
    (Json.record l.fields).readable = true := by
  refine Json.readable_record ?_
  intro f hf
  rcases List.mem_cons.1 hf with rfl | hf
  · rfl
  · obtain ⟨p, hp, rfl⟩ := List.mem_map.1 hf
    exact Json.readable_ofFloat (h p hp)

theorem depth_record_fields (l : RateLaw Float) : (Json.record l.fields).depth ≤ 1 := by
  refine Json.depth_record_le ?_
  intro f hf
  rcases List.mem_cons.1 hf with rfl | hf
  · simp [Json.ofText, Json.depth]
  · obtain ⟨p, -, rfl⟩ := List.mem_map.1 hf
    exact Nat.le_of_eq (Json.depth_ofFloat p.2)

end RateLaw

/-! ### Sides -/

namespace Amounts

/-- Whether no species stands twice on a side. -/
def Distinct (as : Amounts) : Prop := as.species.Nodup

instance (as : Amounts) : Decidable as.Distinct := inferInstanceAs (Decidable as.species.Nodup)

theorem distinct_nil : Distinct [] := List.nodup_nil

/-- **A side that is added up** has every species once. -/
theorem distinct_add {as : Amounts} (h : as.Distinct) (s : String) (x : Float) :
    (as.add s x).Distinct := by
  rw [Distinct, species_add]
  split
  · exact h
  next hs =>
    rw [List.nodup_append]
    refine ⟨h, by simp, ?_⟩
    rintro t ht u hu rfl
    exact hs (List.mem_singleton.1 hu ▸ ht)

theorem put_of_not_mem {s : String} {as : Amounts} (h : s ∉ as.species) (x : Float) :
    put s x as = as ++ [(s, x)] := by
  induction as with
  | nil => rfl
  | cons a as ih =>
    rw [species, List.map_cons, List.mem_cons, not_or] at h
    rw [put, if_neg (Ne.symm h.1), ih h.2, List.cons_append]

/-- Amounts of distinct species are put one behind the other. -/
theorem foldl_put {as bs : Amounts} (h : (as ++ bs).Distinct) :
    bs.foldl (fun as e => as.put e.1 e.2) as = as ++ bs := by
  induction bs generalizing as with
  | nil => simp
  | cons b bs ih =>
    have hb : b.1 ∉ as.species := by
      rw [Distinct, species, List.map_append, List.map_cons, List.nodup_append] at h
      exact fun hmem => h.2.2 b.1 hmem b.1 List.mem_cons_self rfl
    rw [List.append_cons] at h
    rw [List.foldl_cons, put_of_not_mem hb, ih h, List.append_assoc, List.singleton_append]

theorem amountOfJson?_record {key : String} {x : Float} (h : Json.Kept x) :
    amountOfJson? key (.record [(key, .ofFloat x)]) = some x := by
  have hfloats : (Json.record [(key, .ofFloat x)]).floats? ([(key, x)].map Prod.fst) =
      some ([(key, x)].map Prod.snd) :=
    Json.floats?_record (by simp) (by simp) (by simpa using h)
  rw [List.map_singleton, List.map_singleton] at hfloats
  rw [amountOfJson?, hfloats]
  rfl

/-- **A side is read with its species in order.** -/
theorem ofJson?_toJson {as : Amounts} (hdistinct : as.Distinct) (hkept : ∀ a ∈ as, Json.Kept a.2)
    (key : String) : ofJson? key (as.toJson key) = some as := by
  have hentries : (as.map fun a => (a.1, Json.record [(key, .ofFloat a.2)])).mapM
      (fun f => (amountOfJson? key f.2).map fun x => (f.1, x)) = some as := by
    rw [List.mapM_map, mapM_eq_some_map (g := id), List.map_id]
    intro a ha
    rw [Function.comp_apply, amountOfJson?_record (hkept a ha)]
    rfl
  rw [ofJson?, toJson, Json.fields?_record]
  simp only [Option.bind_eq_bind, Option.bind_some, hentries]
  exact congrArg some (@foldl_put [] as hdistinct)

end Amounts

/-! ### Reactions -/

namespace Reaction

/-- The numbers of a reaction: the parameters of its law and the amounts on both sides. -/
def numbers (r : Reaction) : List Float :=
  r.law.parameters.map Prod.snd ++ r.stoichiometry.reactants.map Prod.snd
    ++ r.stoichiometry.products.map Prod.snd

/-- Whether no species stands twice on one side of a reaction. -/
def Distinct (r : Reaction) : Prop :=
  r.stoichiometry.reactants.Distinct ∧ r.stoichiometry.products.Distinct

instance (r : Reaction) : Decidable r.Distinct :=
  inferInstanceAs (Decidable (r.stoichiometry.reactants.Distinct ∧ _))

/-- The fields of a reaction's record. -/
def fields (r : Reaction) : List (String × Json) :=
  r.law.fields ++ [
    ("reactants", r.stoichiometry.reactants.toJson "qty"),
    ("products", r.stoichiometry.products.toJson "yield"),
    ("MUSICA name", .ofText r.name)]

theorem toJson_eq (r : Reaction) : r.toJson = .record r.fields := rfl

theorem nodup_keys_fields (r : Reaction) : (r.fields.map Prod.fst).Nodup := by
  rw [fields, List.map_append, List.nodup_append]
  refine ⟨r.law.nodup_keys_fields, by simp, ?_⟩
  rintro k hlaw l hown rfl
  exact r.law.not_mem_keys_fields k hown hlaw

/-- The fields that a reaction does not need itself are those of its law. -/
theorem filter_fields (r : Reaction) :
    r.fields.filter (fun f => !(["reactants", "products", "MUSICA name"].contains f.1)) =
      r.law.fields := by
  have hlaw : r.law.fields.filter
      (fun f => !(["reactants", "products", "MUSICA name"].contains f.1)) = r.law.fields := by
    rw [List.filter_eq_self]
    intro f hf
    rw [Bool.not_eq_true', List.contains_eq_mem, decide_eq_false_iff_not]
    exact fun hown => r.law.not_mem_keys_fields f.1 hown (List.mem_map_of_mem hf)
  rw [fields, List.filter_append, hlaw]
  simp

theorem one?_fields (r : Reaction) {key : String} {v : Json} (h : (key, v) ∈ r.fields) :
    Json.one? key r.fields = some v :=
  Json.one?_eq_some r.nodup_keys_fields h

/-- The tag in a reaction's record is that of the kind of its law. -/
theorem one?_type_fields (r : Reaction) :
    Json.one? "type" r.fields = some (.ofText r.law.kind.tag) :=
  r.one?_fields (List.mem_append_left _ List.mem_cons_self)

/-- **A record is read as its reaction.** -/
theorem ofJson?_toJson {r : Reaction} (hdistinct : r.Distinct)
    (hkept : ∀ x ∈ r.numbers, Json.Kept x) : ofJson? r.toJson = some r := by
  have hlaw : ∀ p ∈ r.law.parameters, Json.Kept p.2 := fun p hp =>
    hkept p.2 (List.mem_append_left _ (List.mem_append_left _ (List.mem_map_of_mem hp)))
  have hreactants : ∀ a ∈ r.stoichiometry.reactants, Json.Kept a.2 := fun a ha =>
    hkept a.2 (List.mem_append_left _ (List.mem_append_right _ (List.mem_map_of_mem ha)))
  have hproducts : ∀ a ∈ r.stoichiometry.products, Json.Kept a.2 := fun a ha =>
    hkept a.2 (List.mem_append_right _ (List.mem_map_of_mem ha))
  have hleft := r.one?_fields (List.mem_append_right _ List.mem_cons_self)
  have hright := r.one?_fields
    (List.mem_append_right _ (List.mem_cons_of_mem _ List.mem_cons_self))
  have hname := r.one?_fields (List.mem_append_right _
    (List.mem_cons_of_mem _ (List.mem_cons_of_mem _ List.mem_cons_self)))
  have hshape : ¬((Json.record r.law.fields).readable = false ∨
      (Json.record r.law.fields).depth > Json.depthLimit) := by
    rintro (hunreadable | hdeep)
    · rw [RateLaw.readable_record_fields hlaw] at hunreadable
      exact absurd hunreadable (by decide)
    · have hdepth := r.law.depth_record_fields
      rw [Json.depthLimit] at hdeep
      omega
  have hkind : RateKind.ofJson? (.ofText r.law.kind.tag) = some r.law.kind :=
    RateKind.ofTag?_tag r.law.kind
  rw [ofJson?, toJson_eq, Json.fields?_record]
  simp only [Option.bind_eq_bind, Option.bind_some, hleft, hright, hname, one?_type_fields,
    Amounts.ofJson?_toJson hdistinct.1 hreactants, Amounts.ofJson?_toJson hdistinct.2 hproducts,
    Json.ofText, Json.text?, filter_fields, if_neg hshape]
  rw [← Json.ofText, hkind, Option.bind_some, RateLaw.ofParameters?_record hlaw]
  rfl

end Reaction

/-! ### Documents -/

namespace Mechanism

/-- The numbers of the document of the reactions. -/
def reactionNumbers (m : Mechanism) : List Float := m.reactions.flatMap Reaction.numbers

/-- **The document of the reactions** is read as one object under the key `camp-data`, with the name
of the mechanism and a record for each reaction.  Every record has the tag of its kind of law and is
read as its reaction, if all numbers are finite, and finite numbers come back as they were. -/
theorem read?_reactionsText (m : Mechanism) (hdistinct : ∀ r ∈ m.reactions, r.Distinct)
    (hfinite : ∀ x ∈ m.reactionNumbers, x.isFinite = true)
    (hkept : ∀ x ∈ m.reactionNumbers, x.isFinite = true → Json.Kept x) :
    ∃ records : List Json,
      Json.read? m.reactionsText = some (.record [("camp-data", .array [.record [
        ("name", .ofText m.name), ("type", .ofText "MECHANISM"),
        ("reactions", .array records)]])]) ∧
      records.map Reaction.ofJson? = m.reactions.map some ∧
      records.map (fun v => (v.fields?.bind (Json.one? "type")).bind Json.text?) =
        m.reactions.map fun r => some r.law.kind.tag := by
  refine ⟨m.reactions.map Reaction.toJson, Json.read?_render (some 4) m.reactionsJson, ?_, ?_⟩
  · rw [List.map_map]
    refine List.map_congr_left ?_
    intro r hr
    refine Reaction.ofJson?_toJson (hdistinct r hr) ?_
    intro x hx
    have hmem : x ∈ m.reactionNumbers := List.mem_flatMap.2 ⟨r, hr, hx⟩
    exact hkept x hmem (hfinite x hmem)
  · rw [List.map_map]
    refine List.map_congr_left ?_
    intro r _
    rw [Function.comp_apply, Reaction.toJson_eq, Json.fields?_record, Option.bind_some,
      Reaction.one?_type_fields]
    rfl

/-- A mechanism whose texts need escapes, with an empty side and a species without a name. -/
def quoted : Mechanism where
  name := "a \"b\"\n"
  species := []
  reactions := [
    ⟨"R\\1\x01", .troe (.between ⟨1.5e-12, -1.0, 0.0⟩ ⟨2.6e-11, -0.0, -1500.0⟩),
      ⟨[("O₃", 2.0)], []⟩⟩,
    ⟨"", .photolysis, ⟨[("M", 1.0), ("", 0.1)], [("M", 0.35)]⟩⟩]

theorem read?_reactionsText_quoted :
    ∃ records : List Json,
      Json.read? quoted.reactionsText = some (.record [("camp-data", .array [.record [
        ("name", .ofText "a \"b\"\n"), ("type", .ofText "MECHANISM"),
        ("reactions", .array records)]])]) ∧
      records.map Reaction.ofJson? = quoted.reactions.map some ∧
      records.map (fun v => (v.fields?.bind (Json.one? "type")).bind Json.text?) =
        [some "TROE", some "PHOTOLYSIS"] :=
  quoted.read?_reactionsText (by decide +kernel) (by decide +kernel) (by decide +kernel)

end Mechanism

end AtmosChem
