import AtmosChem.Decimal.Layout
import AtmosChem.Decimal.Float

/-!
# Documents

A document is a JSON value.  Objects keep their fields in the order of writing, and numbers keep
their numeral, so that a value and its text determine each other.

A string literal may fail to denote a text, because an escape in it names half of a surrogate pair.
Such a literal is kept as `none`: it does no harm in a place that nobody reads.

* `Json.ofFloat`: a double as a number, or null if it is not finite.
* `Json.text?`, `Json.float?`, `Json.bool?`: what a value says, if it is of that kind.
* `Json.readable`: whether every literal inside denotes something.
* `Json.depth`: how deep arrays and objects are nested.
-/

namespace AtmosChem

open Decimal (Numeral Value Layout)

/-- A JSON value. -/
inductive Json
  | null
  | bool (b : Bool)
  | number (n : Numeral)
  | string (s : Option String)
  | array (items : List Json)
  | object (fields : List (Option String × Json))

namespace Json

/-- A text as a value. -/
def ofText (s : String) : Json := string (some s)

/-- A double as a value.  Documents have no infinities and no NaN. -/
def ofFloat (x : Float) : Json :=
  match Value.ofFloat Layout.document.tie x with
  | .finite negative d => number (Layout.document.numeral negative d)
  | _ => null

/-- An object with the given fields. -/
def record (fields : List (String × Json)) : Json :=
  object (fields.map fun f => (some f.1, f.2))

/-! ### What a value says -/

/-- The text that a string value denotes. -/
def text? : Json → Option String
  | string s => s
  | _ => none

/-- The double that a number stands for. -/
def float? : Json → Option Float
  | number n => n.scaled?
  | _ => none

/-- The truth value that a value is. -/
def bool? : Json → Option Bool
  | bool b => some b
  | _ => none

/-! ### Shape -/

mutual

/-- Whether every number is in range and every string denotes a text. -/
def readable : Json → Bool
  | number n => n.scaled?.isSome
  | string s => s.isSome
  | array items => readableItems items
  | object fields => readableFields fields
  | _ => true

/-- Whether all items are readable. -/
def readableItems : List Json → Bool
  | [] => true
  | v :: vs => readable v && readableItems vs

/-- Whether all fields are readable. -/
def readableFields : List (Option String × Json) → Bool
  | [] => true
  | (k, v) :: fs => k.isSome && readable v && readableFields fs

end

mutual

/-- How deep arrays and objects are nested. -/
def depth : Json → Nat
  | array items => depthItems items + 1
  | object fields => depthFields fields + 1
  | _ => 0

/-- The greatest depth among items. -/
def depthItems : List Json → Nat
  | [] => 0
  | v :: vs => max (depth v) (depthItems vs)

/-- The greatest depth among the values of fields. -/
def depthFields : List (Option String × Json) → Nat
  | [] => 0
  | (_, v) :: fs => max (depth v) (depthFields fs)

end

end Json

end AtmosChem
