import AtmosChem.Decimal.Digits

/-!
# String literals

A string literal of a document stands between quotes.  Inside, a backslash begins an escape; quotes,
backslashes and controls cannot stand there without one.

Reading goes in two steps.  `scan?` takes the literal apart into **units**, characters and escaped
16-bit code units, and finds where the literal ends.  `textOf?` then puts units together: a high and
a low surrogate make one character, a surrogate alone makes none.

* `literal`: the literal of a text, with the short escapes where there are any.
* `scan?`, `textOf?`: reading it.
-/

namespace AtmosChem.Json

/-! ### Writing -/

/-- A hexadecimal digit, in lower case. -/
def hexChar (n : Nat) : Char := if n < 10 then Char.ofNat (48 + n) else Char.ofNat (87 + n)

/-- One character inside a literal. -/
def literalChar (c : Char) : List Char :=
  if c = '"' then ['\\', '"']
  else if c = '\\' then ['\\', '\\']
  else if c = '\x08' then ['\\', 'b']
  else if c = '\x0c' then ['\\', 'f']
  else if c = '\n' then ['\\', 'n']
  else if c = '\r' then ['\\', 'r']
  else if c = '\t' then ['\\', 't']
  else if c.toNat < 32 then
    ['\\', 'u', '0', '0', hexChar (c.toNat / 16), hexChar (c.toNat % 16)]
  else [c]

/-- The literal of a text; for no text, the literal of half a surrogate pair. -/
def literal : Option String → List Char
  | some s => '"' :: s.toList.flatMap literalChar ++ ['"']
  | none => ['"', '\\', 'u', 'd', '8', '0', '0', '"']

/-! ### Reading -/

/-- A part of a literal: a character, or a 16-bit code unit that was written as an escape. -/
inductive CodeUnit
  | char (c : Char)
  | escaped (n : Nat)
deriving DecidableEq, Repr

/-- The value of a hexadecimal digit in either letter case. -/
def hexValue? (c : Char) : Option Nat :=
  let n := c.toNat
  if 48 ≤ n ∧ n < 58 then some (n - 48)
  else if 97 ≤ n ∧ n < 103 then some (n - 87)
  else if 65 ≤ n ∧ n < 71 then some (n - 55)
  else none

/-- The value of four hexadecimal digits. -/
def hexValues? (a b c d : Char) : Option Nat := do
  let a ← hexValue? a
  let b ← hexValue? b
  let c ← hexValue? c
  let d ← hexValue? d
  return ((a * 16 + b) * 16 + c) * 16 + d

/-- The character of a short escape. -/
def shortEscape? (c : Char) : Option Char :=
  if c = '"' ∨ c = '\\' ∨ c = '/' then some c
  else if c = 'b' then some '\x08'
  else if c = 'f' then some '\x0c'
  else if c = 'n' then some '\n'
  else if c = 'r' then some '\r'
  else if c = 't' then some '\t'
  else none

/-- The units up to the closing quote, and the text after it. -/
def scan? : List Char → Option (List CodeUnit × List Char)
  | [] => none
  | '"' :: s => some ([], s)
  | '\\' :: 'u' :: a :: b :: c :: d :: s => do
    let n ← hexValues? a b c d
    let (us, r) ← scan? s
    return (.escaped n :: us, r)
  | '\\' :: e :: s => do
    let x ← shortEscape? e
    let (us, r) ← scan? s
    return (.char x :: us, r)
  | c :: s => do
    if c.toNat < 32 ∨ c = '\\' then none
    let (us, r) ← scan? s
    return (.char c :: us, r)

/-- The text of units, if every surrogate has its partner. -/
def textOf? : List CodeUnit → Option (List Char)
  | [] => some []
  | .char c :: us => (textOf? us).map (c :: ·)
  | .escaped n :: .escaped m :: us =>
    if 0xd800 ≤ n ∧ n < 0xdc00 ∧ 0xdc00 ≤ m ∧ m < 0xe000 then
      (textOf? us).map (Char.ofNat (0x10000 + (n - 0xd800) * 0x400 + (m - 0xdc00)) :: ·)
    else if 0xd800 ≤ n ∧ n < 0xe000 then none
    else (textOf? (.escaped m :: us)).map (Char.ofNat n :: ·)
  | .escaped n :: us =>
    if 0xd800 ≤ n ∧ n < 0xe000 then none else (textOf? us).map (Char.ofNat n :: ·)

example : literal (some "a\n\x01") =
    ['"', 'a', '\\', 'n', '\\', 'u', '0', '0', '0', '1', '"'] := by decide +kernel

example : (scan? ['a', '\\', 'u', 'D', '8', '3', 'd', '"', '1']) =
    some ([.char 'a', .escaped 0xd83d], ['1']) := by decide

/-- A pair of surrogates, a surrogate alone, a surrogate before something else. -/
example : textOf? [.escaped 0xd83d, .escaped 0xde00] = some ['😀'] ∧
    textOf? [.escaped 0xde00] = none ∧ textOf? [.escaped 0xd83d, .char 'x'] = none ∧
    textOf? [.escaped 0xd83d, .escaped 0x41] = none := by decide

end AtmosChem.Json
