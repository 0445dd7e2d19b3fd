import AtmosChem.Json.Printer
import AtmosChem.Json.Reader
import AtmosChem.Mechanism.Basic

/-!
# The documents of a mechanism

A MICM configuration has a document of species and a document of reactions.  Both are objects with
the one key `camp-data`.  A reaction is one flat record: the kind of its law under `type`, the
parameters of the law, the two sides, and its name.

* `Species.toJson`, `Reaction.toJson`, `RateLaw.parameters`: the records.
* `Mechanism.speciesText`, `Mechanism.reactionsText`: the documents.
* `RateLaw.ofJson?`, `Reaction.ofJson?`: reading records back.  Fields may come in any order, and
  fields that are not needed are passed over; a needed field may come only once.
-/

namespace AtmosChem

/-! ### Writing -/

/-- The record of a species. -/
def Species.toJson (s : Species) : Json :=
  .record ([("name", .ofText s.name), ("type", .ofText "CHEM_SPEC")]
    ++ s.formula.elim [] (fun f => [("__formula", .ofText f)])
    ++ (match s.role with
      | .fixed => [("tracer type", .ofText "CONSTANT")]
      | .solved tolerance => [("absolute tolerance", .ofFloat tolerance)]))

/-- The names of the parameters of an Arrhenius law. -/
def Arrhenius.names : List String := ["A", "B", "C", "D", "E"]

/-- The parameters of an Arrhenius law in the order of their names. -/
def Arrhenius.toList {α : Type} (p : Arrhenius α) : List α :=
  [p.factor, p.power, p.activation, p.reference, p.pressure]

/-- The names of the parameters of a falloff law. -/
def Falloff.names : List String :=
  ["k0_A", "k0_B", "k0_C", "kinf_A", "kinf_B", "kinf_C", "Fc", "N"]

/-- The parameters of a falloff law in the order of their names. -/
def Falloff.toList {α : Type} (p : Falloff α) : List α :=
  [p.low.factor, p.low.power, p.low.activation, p.high.factor, p.high.power, p.high.activation,
    p.broadening, p.width]

/-- The parameters of a rate law, each under its name. -/
def RateLaw.parameters {α : Type} : RateLaw α → List (String × α)
  | .arrhenius p => Arrhenius.names.zip p.toList
  | .troe p => Falloff.names.zip p.toList
  | .ternaryChemicalActivation p => Falloff.names.zip p.toList
  | .photolysis => []
  | .firstOrderLoss factor => [("A", factor)]

/-- The fields of a rate law. -/
def RateLaw.fields (l : RateLaw Float) : List (String × Json) :=
  ("type", .ofText l.kind.tag) :: l.parameters.map fun p => (p.1, .ofFloat p.2)

/-- The record of a rate law. -/
def RateLaw.toJson (l : RateLaw Float) : Json := .record l.fields

/-- The record of one side, every amount under the given key. -/
def Amounts.toJson (key : String) (as : Amounts) : Json :=
  .record (as.map fun a => (a.1, .record [(key, .ofFloat a.2)]))

/-- The record of a reaction. -/
def Reaction.toJson (r : Reaction) : Json :=
  .record (r.law.fields ++ [
    ("reactants", r.stoichiometry.reactants.toJson "qty"),
    ("products", r.stoichiometry.products.toJson "yield"),
    ("MUSICA name", .ofText r.name)])

/-- The document of the species. -/
def Mechanism.speciesJson (m : Mechanism) : Json :=
  .record [("camp-data", .array (m.species.map Species.toJson))]

/-- The document of the reactions. -/
def Mechanism.reactionsJson (m : Mechanism) : Json :=
  .record [("camp-data", .array [.record [
    ("name", .ofText m.name),
    ("type", .ofText "MECHANISM"),
    ("reactions", .array (m.reactions.map Reaction.toJson))]])]

/-- The text of the document of the species. -/
def Mechanism.speciesText (m : Mechanism) : String := m.speciesJson.render (some 4)

/-- The text of the document of the reactions. -/
def Mechanism.reactionsText (m : Mechanism) : String := m.reactionsJson.render (some 4)

/-! ### Reading -/

namespace Json

/-- The fields of an object, if every key denotes a text. -/
def fields? : Json → Option (List (String × Json))
  | object fields => fields.mapM fun f => f.1.map fun k => (k, f.2)
  | _ => none

/-- The values under a key. -/
def valuesOf (key : String) (fields : List (String × Json)) : List Json :=
  (fields.filter fun f => f.1 = key).map Prod.snd

/-- The value under a key that must stand there once. -/
def one? (key : String) (fields : List (String × Json)) : Option Json :=
  match valuesOf key fields with
  | [v] => some v
  | _ => none

/-- The numbers of a record, in the order of their names.  The record may also be an array of just
these numbers. -/
def floats? (names : List String) : Json → Option (List Float)
  | array items =>
    if items.length = names.length then items.mapM float? else none
  | v => do
    let fields ← v.fields?
    names.mapM fun name => (one? name fields).bind float?

/-- The word that a value is, as a choice among several: a text, or an object whose one key is the
word and whose value is null. -/
def word? : Json → Option String
  | string s => s
  | object [(k, null)] => k
  | _ => none

/-- The deepest nesting that is read where a value has to be kept. -/
def depthLimit : Nat := 127

end Json

/-- The Arrhenius law with the given parameters. -/
def Arrhenius.ofList? {α : Type} : List α → Option (Arrhenius α)
  | [a, b, c, d, e] => some ⟨a, b, c, d, e⟩
  | _ => none

/-- The falloff law with the given parameters. -/
def Falloff.ofList? {α : Type} : List α → Option (Falloff α)
  | [a, b, c, d, e, f, g, h] => some ⟨⟨a, b, c⟩, ⟨d, e, f⟩, g, h⟩
  | _ => none

/-- The kind with a name. -/
def RateKind.ofTag? (tag : String) : Option RateKind := RateKind.all.find? fun k => k.tag == tag

/-- The kind that a value names. -/
def RateKind.ofWord? (v : Json) : Option RateKind := v.word?.bind ofTag?

/-- The kind of species that a value names. -/
def SpeciesKind.ofWord? (v : Json) : Option SpeciesKind :=
  v.word?.bind fun name => SpeciesKind.all.find? fun k => k.name == name

/-- The law of a kind from the rest of its record. -/
def RateLaw.ofParameters? (kind : RateKind) (rest : Json) : Option (RateLaw Float) :=
  match kind with
  | .arrhenius => do
    let p ← Arrhenius.ofList? (← rest.floats? Arrhenius.names)
    return .arrhenius p
  | .troe => do
    let p ← Falloff.ofList? (← rest.floats? Falloff.names)
    return .troe p
  | .ternaryChemicalActivation => do
    let p ← Falloff.ofList? (← rest.floats? Falloff.names)
    return .ternaryChemicalActivation p
  | .photolysis =>
    match rest with
    | .array (_ :: _) => none
    | _ => some .photolysis
  | .firstOrderLoss => do
    match ← rest.floats? ["A"] with
    | [a] => return .firstOrderLoss a
    | _ => none
  | .unknown => none

/-- The law of a record.  The record may also be an array that begins with the kind. -/
def RateLaw.ofJson? (v : Json) : Option (RateLaw Float) :=
  if v.readable = false ∨ v.depth > Json.depthLimit then none
  else match v with
    | .array (tag :: rest) => do
      let kind ← RateKind.ofTag? (← tag.text?)
      ofParameters? kind (.array rest)
    | .object _ => do
      let kind ← RateKind.ofTag? (← (← Json.one? "type" (← v.fields?)).text?)
      ofParameters? kind v
    | _ => none

/-- The amount under a key, in a record or alone in an array. -/
def Amounts.amountOfJson? (key : String) (v : Json) : Option Float := do
  match ← v.floats? [key] with
  | [x] => some x
  | _ => none

/-- The amount of a species, in the place of an earlier one. -/
def Amounts.put (species : String) (amount : Float) : Amounts → Amounts
  | [] => [(species, amount)]
  | (s, x) :: rest =>
    if s = species then (s, amount) :: rest else (s, x) :: put species amount rest

/-- The amounts of a side. -/
def Amounts.ofJson? (key : String) (v : Json) : Option Amounts := do
  let entries ← (← v.fields?).mapM fun f => (amountOfJson? key f.2).map fun x => (f.1, x)
  return entries.foldl (fun as e => as.put e.1 e.2) []

/-- The kind of law in a reaction's record: a name, or the place of the kind among the kinds. -/
def RateKind.ofJson? : Json → Option RateKind
  | .string s => s.bind ofTag?
  | .number n =>
    if n.negative = false ∧ n.fraction = [] ∧ n.exponent = none then RateKind.ofLaws[n.whole]?
    else none
  | _ => none

/-- The reaction of a record. -/
def Reaction.ofJson? (v : Json) : Option Reaction := do
  let fields ← v.fields?
  let reactants ← Amounts.ofJson? "qty" (← Json.one? "reactants" fields)
  let products ← Amounts.ofJson? "yield" (← Json.one? "products" fields)
  let name ← (← Json.one? "MUSICA name" fields).text?
  let own := ["reactants", "products", "MUSICA name"]
  let rest := Json.record (fields.filter fun f => !own.contains f.1)
  if rest.readable = false ∨ rest.depth > Json.depthLimit then none
  let kind ← RateKind.ofJson? (← Json.one? "type" fields)
  let law ← RateLaw.ofParameters? kind rest
  return ⟨name, law, ⟨reactants, products⟩⟩

end AtmosChem
