import AtmosChem.Json.Basic
import AtmosChem.Json.Literal

/-!
# Writing documents

A document is written on one line without blanks, or with every item and field on a line of its own,
indented by its depth.  An empty array or object has nothing between its brackets either way.

* `Json.render`: the text of a value.
-/

namespace AtmosChem.Json

/-- Where lines end: nowhere, or before every item, with some blanks for each level. -/
abbrev Indent := Option Nat

/-- A new line at some depth. -/
def newline : Indent → Nat → List Char
  | none, _ => []
  | some width, depth => '\n' :: List.replicate (width * depth) ' '

/-- What stands between a key and its value. -/
def keyMark : Indent → List Char
  | none => [':']
  | some _ => [':', ' ']

mutual

/-- The text of a value at some depth. -/
def renderAt (indent : Indent) (depth : Nat) : Json → List Char
  | null => ['n', 'u', 'l', 'l']
  | bool true => ['t', 'r', 'u', 'e']
  | bool false => ['f', 'a', 'l', 's', 'e']
  | number n => n.text
  | string s => literal s
  | array [] => ['[', ']']
  | array (v :: vs) =>
    '[' :: newline indent (depth + 1) ++ renderAt indent (depth + 1) v
      ++ renderItems indent depth vs
  | object [] => ['\x7b', '\x7d']
  | object ((k, v) :: fs) =>
    '\x7b' :: newline indent (depth + 1) ++ literal k ++ keyMark indent
      ++ renderAt indent (depth + 1) v ++ renderFields indent depth fs

/-- The items after the first one, with the closing bracket. -/
def renderItems (indent : Indent) (depth : Nat) : List Json → List Char
  | [] => newline indent depth ++ [']']
  | v :: vs =>
    ',' :: newline indent (depth + 1) ++ renderAt indent (depth + 1) v
      ++ renderItems indent depth vs

/-- The fields after the first one, with the closing bracket. -/
def renderFields (indent : Indent) (depth : Nat) : List (Option String × Json) → List Char
  | [] => newline indent depth ++ ['\x7d']
  | (k, v) :: fs =>
    ',' :: newline indent (depth + 1) ++ literal k ++ keyMark indent
      ++ renderAt indent (depth + 1) v ++ renderFields indent depth fs

end

/-- The text of a document. -/
def render (indent : Indent) (v : Json) : String := String.ofList (renderAt indent 0 v)

example : renderAt none 0 (array [null, object [(some "k", bool true)], array []]) =
    ['[', 'n', 'u', 'l', 'l', ',', '\x7b', '"', 'k', '"', ':', 't', 'r', 'u', 'e', '\x7d', ',',
      '[', ']', ']'] := by decide +kernel

example : renderAt (some 2) 0 (array [null, null]) =
    ['[', '\n', ' ', ' ', 'n', 'u', 'l', 'l', ',', '\n', ' ', ' ', 'n', 'u', 'l', 'l', '\n',
      ']'] := by decide +kernel

end AtmosChem.Json
