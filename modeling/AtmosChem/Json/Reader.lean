import AtmosChem.Json.Basic
import AtmosChem.Json.Literal

/-!
# Reading documents

A document is read in two steps.  `lexemes?` takes the text apart into brackets, separators and
scalars, dropping blanks.  `Reader` is a machine that eats one lexeme at a time and keeps the values
that are still open on a stack, so every step is a table and the loop is a fold.

* `Json.lexemes?`: the lexemes of a text.
* `Json.step?`: the machine.
* `Json.read?`: the value of a text, if the whole text is one value.
-/

namespace AtmosChem.Json

open Decimal (Numeral)

/-! ### Lexemes -/

/-- A bracket, a separator or a scalar. -/
inductive Lexeme
  | openArray
  | closeArray
  | openObject
  | closeObject
  | comma
  | colon
  | null
  | bool (b : Bool)
  | number (n : Numeral)
  | string (s : Option String)
deriving DecidableEq, Repr

/-- The blanks between lexemes. -/
def isGap (c : Char) : Bool := c == ' ' || c == '\n' || c == '\t' || c == '\r'

/-- The lexeme at the beginning of a text, and the text after it. -/
def lexeme? : List Char → Option (Lexeme × List Char)
  | '[' :: s => some (.openArray, s)
  | ']' :: s => some (.closeArray, s)
  | '\x7b' :: s => some (.openObject, s)
  | '\x7d' :: s => some (.closeObject, s)
  | ',' :: s => some (.comma, s)
  | ':' :: s => some (.colon, s)
  | 'n' :: 'u' :: 'l' :: 'l' :: s => some (.null, s)
  | 't' :: 'r' :: 'u' :: 'e' :: s => some (.bool true, s)
  | 'f' :: 'a' :: 'l' :: 's' :: 'e' :: s => some (.bool false, s)
  | '"' :: s => (scan? s).map fun p => (.string ((textOf? p.1).map String.ofList), p.2)
  | s => (Numeral.read? s).map fun p => (.number p.1, p.2)

/-- The lexemes of a text of at most `fuel` characters. -/
def lexemesWithin? : Nat → List Char → Option (List Lexeme)
  | _, [] => some []
  | 0, _ => none
  | fuel + 1, c :: s =>
    if isGap c then lexemesWithin? fuel s
    else do
      let (x, r) ← lexeme? (c :: s)
      let xs ← lexemesWithin? fuel r
      return x :: xs

/-- The lexemes of a text. -/
def lexemes? (s : List Char) : Option (List Lexeme) := lexemesWithin? s.length s

/-! ### The machine -/

/-- A value that is open: the items or fields so far, the latest first. -/
inductive Frame
  | array (items : List Json)
  | object (fields : List (Option String × Json)) (key : Option String)

/-- What may come next, and the values that are open around it. -/
inductive State
  /-- A value. -/
  | value (outer : List Frame)
  /-- The first item of an array, or its end. -/
  | firstItem (outer : List Frame)
  /-- The first key of an object, or its end. -/
  | firstKey (outer : List Frame)
  /-- A key. -/
  | key (fields : List (Option String × Json)) (outer : List Frame)
  /-- The colon after a key. -/
  | colon (fields : List (Option String × Json)) (key : Option String) (outer : List Frame)
  /-- A separator or the end of the innermost open value, or the end of the text. -/
  | done (v : Json) (outer : List Frame)

/-- The state after a scalar or an opening bracket. -/
def begin? (x : Lexeme) (fs : List Frame) : Option State :=
  match x with
  | .null => some (.done .null fs)
  | .bool b => some (.done (.bool b) fs)
  | .number n => some (.done (.number n) fs)
  | .string s => some (.done (.string s) fs)
  | .openArray => some (.firstItem fs)
  | .openObject => some (.firstKey fs)
  | _ => none

/-- The state after one more lexeme. -/
def step? : State → Lexeme → Option State
  | .value fs, x => begin? x fs
  | .firstItem fs, .closeArray => some (.done (.array []) fs)
  | .firstItem fs, x => begin? x (.array [] :: fs)
  | .firstKey fs, .closeObject => some (.done (.object []) fs)
  | .firstKey fs, .string k => some (.colon [] k fs)
  | .key fields fs, .string k => some (.colon fields k fs)
  | .colon fields k fs, .colon => some (.value (.object fields k :: fs))
  | .done v (.array items :: fs), .comma => some (.value (.array (v :: items) :: fs))
  | .done v (.array items :: fs), .closeArray => some (.done (.array (v :: items).reverse) fs)
  | .done v (.object fields k :: fs), .comma => some (.key ((k, v) :: fields) fs)
  | .done v (.object fields k :: fs), .closeObject =>
    some (.done (.object ((k, v) :: fields).reverse) fs)
  | _, _ => none

/-- The state after a list of lexemes. -/
def run? : State → List Lexeme → Option State
  | q, [] => some q
  | q, x :: xs => (step? q x).bind fun q' => run? q' xs

/-- The value that lexemes make up. -/
def ofLexemes? (xs : List Lexeme) : Option Json :=
  match run? (.value []) xs with
  | some (.done v []) => some v
  | _ => none

/-- The value of a text. -/
def read? (s : String) : Option Json := (lexemes? s.toList).bind ofLexemes?

end AtmosChem.Json
