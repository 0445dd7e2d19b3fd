import AtmosChem.Proofs.SpelledNumbers
import AtmosChem.Proofs.WrittenCalls
import Mathlib.Data.List.Forall2

/-!
# Spellings of a number

`WrittenNumber` is a number with everything that its text is made of, the letter of its exponent
aside.  It stands for one double (`WrittenNumber.value`), and whatever letter is taken, whether the
kind suffix follows, and wherever spaces are put in: this double is read (`coefficient?_of_spelling`).

A list may hold numbers and placeholders.  Its separators can be part of neither, so it is read part
by part, and a call of a function has the same law in all spellings.

* `WrittenNumber.readFloat?_text`: a number is read back.
* `coefficient?_of_spelling`: so are all its spellings.
* `coefficients_spellings`: **the spelling of a list makes no difference.**
-/

namespace AtmosChem

open Text

namespace Decimal

/-! ### Numbers as they are written -/

/-- A sign in front of digits, or none. -/
inductive Sign
  | absent
  | plus
  | minus
deriving DecidableEq, Repr

namespace Sign

/-- A sign as it is written. -/
def text : Sign → List Char
  | absent => []
  | plus => ['+']
  | minus => ['-']

/-- A number with a sign. -/
def signed (n : Nat) : Sign → Int
  | minus => -(n : Int)
  | _ => n

end Sign

/-- A number as it is written: a sign, digits with an optional point, and an optional exponent. -/
structure WrittenNumber where
  sign : Sign
  whole : List Digit
  fraction : Option (List Digit)
  exponent : Option (Sign × List Digit)
  digits_ne_nil : whole ++ fraction.getD [] ≠ []
  exponent_ne_nil : ∀ e ∈ exponent, e.2 ≠ []

/-- The point with the digits after it. -/
def pointText : Option (List Digit) → List Char
  | none => []
  | some ds => '.' :: ds.map digitChar

/-- The exponent with its letter. -/
def powerText (letter : Char) : Option (Sign × List Digit) → List Char
  | none => []
  | some (sign, ds) => letter :: (sign.text ++ ds.map digitChar)

namespace WrittenNumber

variable (n : WrittenNumber)

/-- A number without its sign, with a letter for the exponent. -/
def magnitudeText (letter : Char) : List Char :=
  n.whole.map digitChar ++ (pointText n.fraction ++ powerText letter n.exponent)

/-- A number as a text, with a letter for the exponent. -/
def text (letter : Char) : List Char := n.sign.text ++ n.magnitudeText letter

/-- The power of ten that the exponent writes. -/
def power : Int := n.exponent.elim 0 fun e => e.1.signed (natOf e.2)

/-- The double nearest to a number without its sign. -/
def magnitude : Float :=
  nearest (natOf (n.whole ++ n.fraction.getD [])) (n.power - (n.fraction.getD []).length)

/-- The double that a number stands for. -/
def value : Float := if n.sign = .minus then -n.magnitude else n.magnitude

end WrittenNumber

/-! ### Numbers read back -/

/-- Whether a character can begin neither a sign nor a name. -/
def BeginsDigits (c : Char) : Prop :=
  c ≠ '+' ∧ c ≠ '-' ∧ c.toLower ≠ 'n' ∧ c.toLower ≠ 'i'

instance : DecidablePred BeginsDigits := fun _ => inferInstanceAs (Decidable (_ ∧ _))

theorem beginsDigits_digitChar (d : Digit) : BeginsDigits (digitChar d) := by
  revert d
  decide

theorem readExponentPart?_text (sign : Sign) {ds : List Digit} (h : ds ≠ []) :
    readExponentPart? (sign.text ++ ds.map digitChar) = some (sign.signed (natOf ds)) := by
  have htake := takeDigits_append ds (s := []) nofun
  cases ds with
  | nil => exact absurd rfl h
  | cons d ds =>
    obtain ⟨hplus, hminus, -⟩ := beginsDigits_digitChar d
    rw [List.append_nil, List.map_cons] at htake
    cases sign <;> simp [readExponentPart?, Sign.text, htake, Sign.signed, hplus, hminus]

theorem digit?_of_letter {letter : Char} (h : letter = 'e' ∨ letter = 'E') :
    digit? letter = none ∧ letter ≠ '.' := by
  rcases h with rfl | rfl <;> decide

theorem digit?_head_powerText {letter : Char} (h : letter = 'e' ∨ letter = 'E')
    (e : Option (Sign × List Digit)) : ∀ c ∈ (powerText letter e).head?, digit? c = none := by
  cases e with
  | none => exact nofun
  | some e =>
    rintro c ⟨⟩
    exact (digit?_of_letter h).1

theorem digit?_head_pointText {letter : Char} (h : letter = 'e' ∨ letter = 'E')
    (f : Option (List Digit)) (e : Option (Sign × List Digit)) :
    ∀ c ∈ (pointText f ++ powerText letter e).head?, digit? c = none := by
  cases f with
  | none => exact digit?_head_powerText h e
  | some ds =>
    rintro c ⟨⟩
    decide

namespace WrittenNumber

variable (n : WrittenNumber) {letter : Char} (h : letter = 'e' ∨ letter = 'E')

include h

theorem readUnsigned?_text : readUnsigned? (n.magnitudeText letter) = some n.magnitude := by
  have hdigits := n.digits_ne_nil
  have hexponent := n.exponent_ne_nil
  have hwhole := takeDigits_append n.whole (digit?_head_pointText h n.fraction n.exponent)
  have hpoint : letter ≠ '.' := (digit?_of_letter h).2
  rw [readUnsigned?, magnitudeText, hwhole, magnitude, power]
  -- with a point and with an exponent, or without
  cases hf : n.fraction with
  | none =>
    cases he : n.exponent with
    | none => simp_all [pointText, powerText]
    | some e =>
      have hread := readExponentPart?_text e.1 (hexponent e he)
      simp_all [pointText, powerText]
  | some ds =>
    have hfraction := takeDigits_append ds (digit?_head_powerText h n.exponent)
    cases he : n.exponent with
    | none => simp_all [pointText, powerText]
    | some e =>
      have hread := readExponentPart?_text e.1 (hexponent e he)
      simp_all [pointText, powerText]

omit h in
/-- What follows the sign begins with a digit or a point. -/
theorem exists_magnitudeText_eq_cons (letter : Char) :
    ∃ c rest, n.magnitudeText letter = c :: rest ∧ BeginsDigits c := by
  rw [magnitudeText]
  cases hw : n.whole with
  | cons d ds => exact ⟨digitChar d, _, rfl, beginsDigits_digitChar d⟩
  | nil =>
    cases hf : n.fraction with
    | none => exact absurd (by rw [hw, hf]; rfl) n.digits_ne_nil
    | some ds => exact ⟨'.', _, rfl, by decide⟩

/-- **A number is read back.** -/
theorem readFloat?_text : readFloat? (n.text letter) = some n.value := by
  obtain ⟨c, rest, hcons, hplus, hminus, hn, hi⟩ := n.exists_magnitudeText_eq_cons letter
  have hname : named? ((n.magnitudeText letter).map Char.toLower) = none := by
    simp [hcons, named?, hn, hi]
  have hmagnitude : readMagnitude? (n.magnitudeText letter) = some n.magnitude := by
    rw [readMagnitude?, hname, Option.none_or, readUnsigned?_text n h]
  rw [text, value]
  cases n.sign with
  | plus => simp [Sign.text, readFloat?, hmagnitude]
  | minus => simp [Sign.text, readFloat?, hmagnitude]
  | absent =>
    rw [hcons] at hmagnitude
    simp [Sign.text, hcons, readFloat?, hplus, hminus, hmagnitude]

end WrittenNumber

end Decimal

open Decimal

/-! ### Spellings -/

/-- The letters that mark an exponent. -/
def exponentLetters : List Char := ['D', 'E', 'e']

/-- The suffix for the kind of a number. -/
def kindSuffix : List Char := ['_', 'd', 'p']

/-- Whether a text spells a number: with any of the letters, with the suffix or not, and with spaces
anywhere. -/
def Decimal.WrittenNumber.Spelling (n : WrittenNumber) (s : List Char) : Prop :=
  ∃ letter ∈ exponentLetters, ∃ kind ∈ [[], kindSuffix], withoutSpaces s = n.text letter ++ kind

instance (n : WrittenNumber) (s : List Char) : Decidable (n.Spelling s) :=
  decidable_of_iff ((exponentLetters.any fun letter =>
      [[], kindSuffix].any fun kind => withoutSpaces s = n.text letter ++ kind) = true) (by
    simp only [WrittenNumber.Spelling, List.any_eq_true, decide_eq_true_eq])

theorem respell_eq (s : List Char) :
    respell s = (eraseKind (withoutSpaces s)).map respellChar := rfl

/-- No suffix begins in a text without an underscore. -/
theorem eraseKind_append {s : List Char} (h : '_' ∉ s) (t : List Char) :
    eraseKind (s ++ t) = s ++ eraseKind t := by
  induction s with
  | nil => rfl
  | cons c s ih =>
    rw [List.mem_cons, not_or] at h
    rw [List.cons_append, eraseKind.eq_2 _ _ fun _ hc => absurd hc.symm h.1, ih h.2]
    rfl

theorem respellChar_digitChar (d : Digit) : respellChar (digitChar d) = digitChar d := by
  revert d
  decide

/-- Of a number only the letter of the exponent is changed. -/
theorem map_respellChar_text (n : WrittenNumber) (letter : Char) :
    (n.text letter).map respellChar = n.text (respellChar letter) := by
  have hdigits : ∀ ds : List Digit, (ds.map digitChar).map respellChar = ds.map digitChar := by
    intro ds
    rw [List.map_map]
    exact List.map_congr_left fun d _ => respellChar_digitChar d
  have hsign : ∀ sign : Sign, sign.text.map respellChar = sign.text := by
    intro sign
    cases sign <;> rfl
  have hpoint : (pointText n.fraction).map respellChar = pointText n.fraction := by
    cases n.fraction with
    | none => rfl
    | some ds => exact congrArg ('.' :: ·) (hdigits ds)
  have hpower : (powerText letter n.exponent).map respellChar =
      powerText (respellChar letter) n.exponent := by
    cases n.exponent with
    | none => rfl
    | some e => rw [powerText, List.map_cons, List.map_append, hsign, hdigits, powerText]
  rw [WrittenNumber.text, WrittenNumber.magnitudeText, List.map_append, List.map_append,
    List.map_append, hsign, hdigits, hpoint, hpower, WrittenNumber.text,
    WrittenNumber.magnitudeText]

section

variable {letter : Char} (hletter : letter ∈ exponentLetters)

include hletter

theorem respellChar_of_mem : respellChar letter = 'e' ∨ respellChar letter = 'E' :=
  forall_mem_of_all (p := fun c => respellChar c = 'e' ∨ respellChar c = 'E') (by decide) letter
    hletter

theorem underscore_not_mem_text (n : WrittenNumber) : '_' ∉ n.text letter := by
  intro hm
  have hread := n.readFloat?_text (respellChar_of_mem hletter)
  have hnumber : '_' ∈ numberChars := by
    refine mem_numberChars hread _ ?_
    rw [← map_respellChar_text]
    exact List.mem_map_of_mem hm
  exact absurd hnumber (by decide)

end

/-- **A number is read in all its spellings.** -/
theorem coefficient?_of_spelling {n : WrittenNumber} {s : List Char} (h : n.Spelling s) :
    coefficient? s = some n.value := by
  obtain ⟨letter, hletter, kind, hkind, hs⟩ := h
  have herase : eraseKind kind = [] := by
    rcases List.mem_cons.1 hkind with rfl | hkind
    · rfl
    · rw [List.mem_singleton.1 hkind]
      rfl
  rw [coefficient?, respell_eq, hs, eraseKind_append (underscore_not_mem_text hletter n), herase,
    List.append_nil, map_respellChar_text, n.readFloat?_text (respellChar_of_mem hletter)]

/-! ### Lists of arguments -/

/-- The marks between the arguments of a call and around them. -/
def argumentMarks : List Char := [',', '(', ')']

/-- An argument of a call: a number, or a placeholder that stands for none. -/
inductive Argument
  | number (n : WrittenNumber)
  | placeholder

namespace Argument

/-- The number that an argument gives. -/
def value? : Argument → Option Float
  | number n => some n.value
  | placeholder => none

/-- Whether an argument is written so.  A placeholder is any text that has no mark and is not read
as a number. -/
def Writes : Argument → List Char → Prop
  | number n, s => n.Spelling s
  | placeholder, s => (∀ c ∈ argumentMarks, c ∉ s) ∧ coefficient? s = none

instance : ∀ (a : Argument) (s : List Char), Decidable (a.Writes s)
  | number n, s => inferInstanceAs (Decidable (n.Spelling s))
  | placeholder, s =>
    decidable_of_iff ((argumentMarks.all fun c => c ∉ s) = true ∧ (coefficient? s).isNone = true)
      (by simp only [Writes, List.all_eq_true, decide_eq_true_eq, Option.isNone_iff_eq_none])

variable {a : Argument} {s : List Char}

theorem Writes.coefficient?_eq (h : a.Writes s) : coefficient? s = a.value? := by
  cases a with
  | number n => exact coefficient?_of_spelling h
  | placeholder => exact h.2

theorem Writes.not_mem (h : a.Writes s) : ∀ c ∈ argumentMarks, c ∉ s := by
  cases a with
  | number n =>
    have hno : ∀ c ∈ argumentMarks, c ∉ spellingChars := forall_mem_of_all (by decide)
    intro c hc hm
    exact hno c hc (mem_spellingChars (coefficient?_of_spelling h) c hm)
  | placeholder => exact h.1

end Argument

/-- The numbers that arguments give, in order. -/
def argumentValues (arguments : List Argument) : List Float := arguments.filterMap Argument.value?

/-- Whether a list of arguments is written so, one by one. -/
def Written (arguments : List Argument) (texts : List (List Char)) : Prop :=
  List.Forall₂ Argument.Writes arguments texts

instance (arguments : List Argument) (texts : List (List Char)) :
    Decidable (Written arguments texts) :=
  inferInstanceAs (Decidable (List.Forall₂ Argument.Writes arguments texts))

/-- Texts with commas between them. -/
def argumentList (texts : List (List Char)) : List Char := [','].intercalate texts

namespace Written

variable {arguments : List Argument} {texts : List (List Char)} (h : Written arguments texts)

include h

theorem filterMap_eq : texts.filterMap coefficient? = argumentValues arguments := by
  induction h with
  | nil => rfl
  | cons ha _ ih =>
    rw [argumentValues, List.filterMap_cons, List.filterMap_cons, ha.coefficient?_eq, ih]
    rfl

theorem not_mem : ∀ s ∈ texts, ∀ c ∈ argumentMarks, c ∉ s := by
  induction h with
  | nil => exact nofun
  | cons ha _ ih => exact List.forall_mem_cons.2 ⟨ha.not_mem, ih⟩

theorem coefficients_eq : coefficients (argumentList texts) = argumentValues arguments := by
  rw [argumentList, coefficients_intercalate rfl fun s hs => h.not_mem s hs ',' (by decide),
    h.filterMap_eq]

/-- No argument ends the call. -/
theorem close_not_mem : ')' ∉ argumentList texts :=
  not_mem_intercalate (by decide) fun s hs => h.not_mem s hs ')' (by decide)

variable {name gap : List Char} (hname : RateForm.isName name = true)
  (hgap : ∀ c ∈ gap, isBlank c = true) (tail : List Char)

include hname hgap

theorem callCoefficients_eq :
    callCoefficients (callWith name gap (argumentList texts) tail) = argumentValues arguments := by
  rw [callCoefficients_callWith hname hgap h.close_not_mem, h.coefficients_eq]

/-- A call is classified by its name and the numbers that its arguments give. -/
theorem classifyExpression_eq
    (hmarks : marksPhotolysis (callWith name gap (argumentList texts) tail) = false)
    (photon hasProducts : Bool) :
    classifyExpression (callWith name gap (argumentList texts) tail) photon hasProducts =
      if photon = true then .single .photolysis
      else (RateForm.ofName (String.ofList name)).classify (argumentValues arguments) := by
  cases photon with
  | true => exact classifyExpression_photolysis rfl hasProducts
  | false =>
    rw [classifyExpression_of_callName? hmarks (callName?_callWith hname hgap _ tail),
      h.callCoefficients_eq hname hgap]
    rfl

end Written

/-- **The spelling of a list makes no difference.**  The numbers of a list and of a call are those
that the arguments give in the common spelling, and all calls of a name with these arguments have
the same classification. -/
theorem coefficients_spellings {arguments : List Argument} {texts texts' : List (List Char)}
    (h : Written arguments texts) (h' : Written arguments texts') {name gap gap' : List Char}
    (hname : RateForm.isName name = true) (hgap : ∀ c ∈ gap, isBlank c = true)
    (hgap' : ∀ c ∈ gap', isBlank c = true) (tail tail' : List Char) :
    (∀ n : WrittenNumber, readFloat? (n.text 'e') = some n.value) ∧
      coefficients (argumentList texts) = argumentValues arguments ∧
      callCoefficients (callWith name gap (argumentList texts) tail) = argumentValues arguments ∧
      (marksPhotolysis (callWith name gap (argumentList texts) tail) = false →
        marksPhotolysis (callWith name gap' (argumentList texts') tail') = false →
          ∀ photon hasProducts,
            classifyExpression (callWith name gap (argumentList texts) tail) photon hasProducts =
              classifyExpression (callWith name gap' (argumentList texts') tail') photon
                hasProducts) := by
  refine ⟨fun n => n.readFloat?_text (Or.inl rfl), h.coefficients_eq,
    h.callCoefficients_eq hname hgap tail, ?_⟩
  intro hmarks hmarks' photon hasProducts
  rw [h.classifyExpression_eq hname hgap tail hmarks,
    h'.classifyExpression_eq hname hgap' tail' hmarks']

/-- Two numbers with a placeholder between them. -/
def titrationArguments : List Argument :=
  [.number { sign := .absent, whole := digitsOf 3, fraction := some (digitsOf 0),
             exponent := some (.minus, digitsOf 12),
             digits_ne_nil := by decide, exponent_ne_nil := by decide },
   .placeholder,
   .number { sign := .minus, whole := digitsOf 1500, fraction := some (digitsOf 0),
             exponent := none, digits_ne_nil := by decide, exponent_ne_nil := by decide }]

theorem argumentValues_titrationArguments :
    argumentValues titrationArguments = [3.0e-12, -1500.0] := by rfl

/-- These arguments in the old spelling. -/
def oldSpelling : List (List Char) :=
  [['3', '.', '0', 'D', '-', '1', '2'], [' ', 'T', 'E', 'M', 'P'],
   [' ', '-', ' ', '1', '5', ' ', '0', '0', '.', '0', '_', 'd', 'p']]

/-- These arguments in the common spelling. -/
def commonSpelling : List (List Char) :=
  [['3', '.', '0', 'e', '-', '1', '2'], ['T', 'E', 'M', 'P'], ['-', '1', '5', '0', '0', '.', '0']]

/-- A function with these arguments, which may be followed by anything. -/
theorem coefficients_spellings_titration :
    coefficients (argumentList oldSpelling) = [3.0e-12, -1500.0] ∧
      ∀ photon hasProducts,
        classifyExpression (callWith ['A', 'R', 'R', '2'] [] (argumentList oldSpelling) [])
            photon hasProducts =
          classifyExpression (callWith ['A', 'R', 'R', '2'] [' '] (argumentList commonSpelling)
            [' ', '+', ' ', 'k']) photon hasProducts := by
  have hold : Written titrationArguments oldSpelling := by decide +kernel
  have hcommon : Written titrationArguments commonSpelling := by decide +kernel
  obtain ⟨-, hlist, -, hcalls⟩ := @coefficients_spellings _ _ _ hold hcommon ['A', 'R', 'R', '2']
    [] [' '] (by decide) isBlank_of_mem_nil (forall_mem_of_all (by decide)) [] [' ', '+', ' ', 'k']
  rw [argumentValues_titrationArguments] at hlist
  exact ⟨hlist, hcalls (by decide) (by decide)⟩

end AtmosChem
