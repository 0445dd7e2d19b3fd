/-!
# Decimal digits

A digit is a `Fin 10`, so a list of digits is always the text of a number, and leading zeros are
kept.

* `digit?`, `digitChar`: a digit and its character.
* `takeDigits`: the digits a text begins with, and the rest.
* `natOf`: the number that a list of digits writes.
* `digitsOf`: the digits of a number.
* `tenTo`, `twoTo`: the powers that scale numbers, as plain numbers.
-/

namespace AtmosChem.Decimal

/-! ### Digits and their characters -/

/-- A decimal digit. -/
abbrev Digit := Fin 10

/-- The digit that a character stands for; only the ten digits of ASCII are digits. -/
def digit? (c : Char) : Option Digit :=
  if h : 48 ≤ c.toNat ∧ c.toNat < 58 then some ⟨c.toNat - 48, by omega⟩ else none

/-- The character of a digit. -/
def digitChar (d : Digit) : Char := Char.ofNat (48 + d.val)

theorem digit?_digitChar (d : Digit) : digit? (digitChar d) = some d := by
  revert d
  decide

/-- The digits at the beginning of a text, and the text after them. -/
def takeDigits : List Char → List Digit × List Char
  | [] => ([], [])
  | c :: s =>
    match digit? c with
    | some d =>
      let (ds, rest) := takeDigits s
      (d :: ds, rest)
    | none => ([], c :: s)

/-- **Digits are read back** in front of a text that begins with none. -/
theorem takeDigits_append (ds : List Digit) {s : List Char}
    (h : ∀ c ∈ s.head?, digit? c = none) : takeDigits (ds.map digitChar ++ s) = (ds, s) := by
  induction ds with
  | nil =>
    cases s with
    | nil => rfl
    | cons c s => simp [takeDigits, h c (by simp)]
  | cons d ds ih => simp [takeDigits, digit?_digitChar, ih]

/-! ### Digits and numbers -/

/-- The number that a list of digits writes. -/
def natOf (ds : List Digit) : Nat := ds.foldl (fun n d => 10 * n + d.val) 0

/-- The digits of a number below `10 ^ fuel`. -/
def digitsBelow : Nat → Nat → List Digit
  | 0, _ => []
  | fuel + 1, n =>
    if h : n < 10 then [⟨n, h⟩]
    else digitsBelow fuel (n / 10) ++ [⟨n % 10, Nat.mod_lt n (by decide)⟩]

/-- The digits of a number, without leading zeros. -/
def digitsOf (n : Nat) : List Digit := digitsBelow (n + 1) n

theorem natOf_append (ds : List Digit) (d : Digit) : natOf (ds ++ [d]) = 10 * natOf ds + d.val := by
  simp [natOf]

theorem natOf_digitsBelow {fuel n : Nat} (h : n < fuel) : natOf (digitsBelow fuel n) = n := by
  induction fuel generalizing n with
  | zero => omega
  | succ fuel ih =>
    rw [digitsBelow]
    split
    · simp [natOf]
    · rw [natOf_append, ih (by omega)]
      show 10 * (n / 10) + n % 10 = n
      omega

/-- **The digits of a number write it.** -/
theorem natOf_digitsOf (n : Nat) : natOf (digitsOf n) = n := natOf_digitsBelow (Nat.lt_succ_self n)

theorem digitsOf_injective {m n : Nat} (h : digitsOf m = digitsOf n) : m = n := by
  rw [← natOf_digitsOf m, h, natOf_digitsOf]

/-! ### Powers -/

/-- A one with `k` zeros after it. -/
def tenTo (k : Nat) : Nat := Nat.pow 10 k

/-- Two to the power `k`. -/
def twoTo (k : Nat) : Nat := Nat.pow 2 k

@[simp] theorem tenTo_zero : tenTo 0 = 1 := rfl

@[simp] theorem twoTo_zero : twoTo 0 = 1 := rfl

theorem tenTo_succ (k : Nat) : tenTo (k + 1) = tenTo k * 10 := rfl

theorem twoTo_succ (k : Nat) : twoTo (k + 1) = twoTo k * 2 := rfl

theorem tenTo_pos (k : Nat) : 0 < tenTo k := by
  induction k with
  | zero => decide
  | succ k ih =>
    rw [tenTo_succ]
    omega

theorem twoTo_pos (k : Nat) : 0 < twoTo k := by
  induction k with
  | zero => decide
  | succ k ih =>
    rw [twoTo_succ]
    omega

/-! ### Texts -/

/-- The decimal text of a number. -/
def decimalText (n : Nat) : List Char := (digitsOf n).map digitChar

example : decimalText 0 = ['0'] ∧ decimalText 120 = ['1', '2', '0'] := by decide

end AtmosChem.Decimal
