/-! # Numerals

Whole numbers in base ten.

* **`digits`**, **`ofInt`**, **`padded`** — the numeral of a number;
* **`value`** — the number that a list of digits spells;
* **`unsigned?`** — reads a numeral with an optional plus sign, below a given bound. -/

namespace CurrencyLedger.Numeral

/-- The character of a digit. -/
def digitChar (d : Nat) : Char := Char.ofNat (48 + d)

/-- The number that a digit stands for. -/
def digitValue (c : Char) : Nat := c.toNat - 48

/-- The digits of a number, the highest first; zero has one digit. -/
def digits (n : Nat) : List Char :=
  if n < 10 then [digitChar n] else digits (n / 10) ++ [digitChar (n % 10)]

/-- The number that digits spell. -/
def value (ds : List Char) : Nat := ds.foldl (fun n c => 10 * n + digitValue c) 0

/-- The digits of an integer, after a minus sign if it is negative. -/
def ofInt (z : Int) : List Char :=
  if z < 0 then '-' :: digits z.natAbs else digits z.natAbs

/-- The numeral of an integer as a text. -/
def text (z : Int) : String := String.ofList (ofInt z)

/-- The digits of a number, with zeros in front up to a width. -/
def padded (width n : Nat) : List Char :=
  List.replicate (width - (digits n).length) '0' ++ digits n

/-- The number that one or more digits spell. -/
def natural? (s : List Char) : Option Nat :=
  if s.isEmpty || !s.all Char.isDigit then none else some (value s)

/-- The numbers of 32 bits are those below `2 ^ 32`. -/
def bound32 : Nat := 0x100000000

/-- The numbers of 64 bits are those below `2 ^ 64`. -/
def bound64 : Nat := 0x10000000000000000

/-- A numeral with an optional plus sign whose value is below `bound`. -/
def unsigned? (bound : Nat) (s : List Char) : Option Nat :=
  let n := match s with
    | '+' :: ds => natural? ds
    | ds => natural? ds
  n.filter (· < bound)

/-! ## Reading back what was written -/

theorem digits_of_lt {n : Nat} (h : n < 10) : digits n = [digitChar n] := by
  rw [digits, if_pos h]

theorem digits_of_ge {n : Nat} (h : ¬ n < 10) :
    digits n = digits (n / 10) ++ [digitChar (n % 10)] := by
  rw [digits, if_neg h]

theorem digitValue_digitChar : ∀ {d : Nat}, d < 10 → digitValue (digitChar d) = d := by
  decide

theorem isDigit_digitChar : ∀ {d : Nat}, d < 10 → (digitChar d).isDigit = true := by
  decide

/-- The value of digits with one more at the end. -/
theorem value_append_singleton (ds : List Char) (c : Char) :
    value (ds ++ [c]) = 10 * value ds + digitValue c := by
  simp [value]

/-- Digits spell the number they were made from. -/
@[simp] theorem value_digits (n : Nat) : value (digits n) = n := by
  induction n using Nat.strongRecOn with
  | _ n ih =>
    by_cases h : n < 10
    · rw [digits_of_lt h]
      simp [value, digitValue_digitChar h]
    · rw [digits_of_ge h, value_append_singleton, ih (n / 10) (by omega),
        digitValue_digitChar (Nat.mod_lt n (by decide))]
      omega

/-- Every character of a numeral is a digit. -/
theorem all_isDigit_digits (n : Nat) : (digits n).all Char.isDigit = true := by
  induction n using Nat.strongRecOn with
  | _ n ih =>
    by_cases h : n < 10
    · rw [digits_of_lt h]
      simp [isDigit_digitChar h]
    · rw [digits_of_ge h]
      simp only [List.all_append, List.all_cons, List.all_nil, Bool.and_true, Bool.and_eq_true]
      exact ⟨ih (n / 10) (by omega), isDigit_digitChar (Nat.mod_lt n (by decide))⟩

theorem digits_ne_nil (n : Nat) : digits n ≠ [] := by
  by_cases h : n < 10
  · simp [digits_of_lt h]
  · simp [digits_of_ge h]

end CurrencyLedger.Numeral
