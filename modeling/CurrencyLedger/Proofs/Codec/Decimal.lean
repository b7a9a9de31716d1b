import CurrencyLedger.Decimal.Literal
import Mathlib.Data.List.Induction
import Mathlib.Tactic.Ring

/-! # Reading numerals and decimals back

* **`Numeral.foldl_value`** — digits that follow others shift them to the left;
* **`Numeral.value_padded`**, **`Numeral.length_padded`** — a numeral with zeros in front;
* **`Decimal.Scan.run_digits`** — a scan over digits that the limits leave room for;
* **`Decimal.ofText?_text_plain`** — a decimal is read back from its plain notation, with its scale,
  but for the sign of a zero. -/

namespace CurrencyLedger

namespace Numeral

/-! ## Digits after digits -/

/-- Digits that follow a number shift it to the left. -/
theorem foldl_value (n : Nat) (ds : List Char) :
    ds.foldl (fun n c => 10 * n + digitValue c) n = n * 10 ^ ds.length + value ds := by
  induction ds using List.reverseRecOn with
  | nil => simp [value]
  | append_singleton ds c ih =>
    rw [List.foldl_append, ih, value_append_singleton, List.length_append]
    simp only [List.foldl_cons, List.foldl_nil, List.length_singleton, Nat.pow_succ]
    ring

/-- A number is not above what it becomes by digits that follow. -/
theorem le_foldl_value (n : Nat) (ds : List Char) :
    n ≤ ds.foldl (fun n c => 10 * n + digitValue c) n := by
  rw [foldl_value]
  exact Nat.le_trans (Nat.le_mul_of_pos_right n (Nat.pow_pos (by decide))) (Nat.le_add_right _ _)

/-- A number below a power of ten has at most as many digits. -/
theorem length_digits_le {n width : Nat} (positive : 0 < width) (small : n < 10 ^ width) :
    (digits n).length ≤ width := by
  induction width generalizing n with
  | zero => omega
  | succ width ih =>
    by_cases one : n < 10
    · rw [digits_of_lt one]
      exact positive
    · rw [digits_of_ge one, List.length_append, List.length_singleton]
      rw [Nat.pow_succ] at small
      have less : n / 10 < 10 ^ width := Nat.div_lt_of_lt_mul (by omega)
      have some : 0 < width := by
        by_contra zero
        obtain rfl : width = 0 := by omega
        omega
      exact Nat.succ_le_succ (ih some less)

/-- A numeral with zeros in front has its width. -/
theorem length_padded {n width : Nat} (positive : 0 < width) (small : n < 10 ^ width) :
    (padded width n).length = width := by
  have le := length_digits_le positive small
  rw [padded, List.length_append, List.length_replicate]
  omega

/-- Zeros in front change nothing about a number. -/
theorem value_padded (width n : Nat) : value (padded width n) = n := by
  have zeros (count : Nat) : value (List.replicate count '0') = 0 := by
    induction count with
    | zero => rfl
    | succ count ih =>
      rw [List.replicate_succ', value_append_singleton, ih]
      rfl
  have split : value (padded width n) =
      (digits n).foldl (fun n c => 10 * n + digitValue c)
        (value (List.replicate (width - (digits n).length) '0')) := by
    rw [padded, value, List.foldl_append]
    rfl
  rw [split, zeros, foldl_value, value_digits, Nat.zero_mul, Nat.zero_add]

/-- A numeral with zeros in front has digits only. -/
theorem all_isDigit_padded (width n : Nat) : (padded width n).all Char.isDigit = true := by
  rw [padded, List.all_append, all_isDigit_digits, Bool.and_true, List.all_eq_true]
  intro c mem
  rw [List.eq_of_mem_replicate mem]
  rfl

end Numeral

namespace Decimal

/-! ## Scanning digits -/

/-- A scan over digits that the limits leave room for takes them all in. -/
theorem Scan.run_digits {s : Scan} {ds : List Char} (rest : List Char) (digits : ds.all Char.isDigit = true)
    (small : ds.foldl (fun n c => 10 * n + Numeral.digitValue c) s.coefficient < limit)
    (room : s.point = true → s.scale + ds.length ≤ 28) :
    ∃ wide, s.run (ds ++ rest) = Scan.run
      { coefficient := ds.foldl (fun n c => 10 * n + Numeral.digitValue c) s.coefficient
        scale := if s.point then s.scale + ds.length else s.scale
        point := s.point
        digits := s.digits || !ds.isEmpty
        wide := wide } rest := by
  induction ds generalizing s with
  | nil => exact ⟨s.wide, by simp⟩
  | cons c ds ih =>
    rw [List.all_cons, Bool.and_eq_true] at digits
    -- More digits only make the number larger, so the limit is kept from the first digit on.
    have fits : 10 * s.coefficient + Numeral.digitValue c < limit :=
      Nat.lt_of_le_of_lt (Numeral.le_foldl_value _ ds) small
    have inside : (s.point && s.scale == 28) = false := by
      cases point : s.point with
      | false => rfl
      | true =>
        have := room point
        rw [List.length_cons] at this
        simp only [Bool.true_and, beq_eq_false_iff_ne]
        omega
    -- The first digit is taken in; the others follow by induction.
    obtain ⟨wide, tail⟩ := ih (s := { coefficient := 10 * s.coefficient + Numeral.digitValue c
                                      scale := if s.point then s.scale + 1 else s.scale
                                      point := s.point
                                      digits := true
                                      wide := wordLimit ≤ s.coefficient }) digits.2 small
      (fun point => by
        have := room point
        rw [List.length_cons] at this
        simp only [show s.point = true from point, if_true]
        omega)
    refine ⟨wide, ?_⟩
    rw [List.cons_append, Scan.run, if_neg (by simp [inside]), if_pos digits.1, if_pos fits, tail]
    cases s.point with
    | false => simp
    | true => simp [Nat.add_assoc, Nat.add_comm 1]

/-! ## Reading back what was written -/

/-- A magnitude in plain notation begins with a digit. -/
theorem magnitudeChars_eq_cons (magnitude scale : Nat) :
    ∃ c rest, magnitudeChars magnitude scale = c :: rest ∧ c.isDigit = true := by
  have first (n : Nat) (rest : List Char) :
      ∃ c tail, Numeral.digits n ++ rest = c :: tail ∧ c.isDigit = true := by
    cases h : Numeral.digits n with
    | nil => exact absurd h (Numeral.digits_ne_nil n)
    | cons c ds =>
      have all := Numeral.all_isDigit_digits n
      rw [h, List.all_cons, Bool.and_eq_true] at all
      exact ⟨c, ds ++ rest, rfl, all.1⟩
  rw [magnitudeChars]
  split
  · have := first magnitude []
    rwa [List.append_nil] at this
  · exact first _ _

/-- A scan over a magnitude in plain notation finds its digits and its scale. -/
theorem Scan.run_magnitudeChars {magnitude scale : Nat} (small : magnitude < limit)
    (le : scale ≤ 28) : ∃ scan, Scan.run {} (magnitudeChars magnitude scale) = some scan ∧
      scan.coefficient = magnitude ∧ scan.scale = scale := by
  have spelled (n : Nat) : (Numeral.digits n).foldl
      (fun n c => 10 * n + Numeral.digitValue c) 0 = n := Numeral.value_digits n
  have some_digits (n : Nat) : (false || !(Numeral.digits n).isEmpty) = true := by
    simp [Numeral.digits_ne_nil]
  rw [magnitudeChars]
  by_cases whole : scale = 0
  · rw [if_pos whole]
    obtain ⟨wide, run⟩ := Scan.run_digits (s := {}) []
      (Numeral.all_isDigit_digits magnitude) (by rw [spelled]; exact small) nofun
    rw [List.append_nil, spelled, some_digits, Scan.run, if_pos rfl] at run
    exact ⟨_, run, rfl, whole.symm⟩
  · have positive : 0 < scale := Nat.pos_of_ne_zero whole
    have power : 0 < Nat.pow 10 scale := Nat.pow_pos (by decide)
    have less : magnitude % Nat.pow 10 scale < 10 ^ scale := Nat.mod_lt _ power
    -- The digits before the point, the point, and the digits after it.
    obtain ⟨wide, before⟩ := Scan.run_digits (s := {})
      ('.' :: Numeral.padded scale (magnitude % Nat.pow 10 scale))
      (Numeral.all_isDigit_digits (magnitude / Nat.pow 10 scale))
      (by
        rw [spelled]
        exact Nat.lt_of_le_of_lt (Nat.div_le_self _ _) small) nofun
    rw [spelled, some_digits] at before
    have total : (Numeral.padded scale (magnitude % Nat.pow 10 scale)).foldl
        (fun n c => 10 * n + Numeral.digitValue c) (magnitude / Nat.pow 10 scale) = magnitude := by
      rw [Numeral.foldl_value, Numeral.length_padded positive less, Numeral.value_padded]
      exact Nat.div_add_mod' magnitude (10 ^ scale)
    obtain ⟨wide', after⟩ := Scan.run_digits
      (s := { coefficient := magnitude / Nat.pow 10 scale, scale := 0, point := true,
              digits := true, wide := wide }) []
      (Numeral.all_isDigit_padded scale (magnitude % Nat.pow 10 scale))
      (by rw [total]; exact small)
      (fun _ => by
        rw [Numeral.length_padded positive less]
        exact Nat.le_trans (Nat.le_of_eq (Nat.zero_add scale)) le)
    rw [List.append_nil, total, Numeral.length_padded positive less, Scan.run, if_pos rfl] at after
    rw [if_neg whole, before, Scan.run]
    exact ⟨_, after, rfl, Nat.zero_add scale⟩

/-- The number without the sign of a zero, which is shown and means nothing else. -/
def plain (d : Decimal) : Decimal where
  coefficient := d.coefficient
  scale := d.scale
  coefficient_lt := d.coefficient_lt
  scale_le := d.scale_le

/-- A number that is no zero with a minus sign is what it is without the sign. -/
theorem plain_eq_self {d : Decimal} (unsigned : d.minusZero = false) : d.plain = d :=
  Decimal.ext rfl rfl unsigned.symm

/-- A decimal is read back from its plain notation, but for the sign of a zero. -/
theorem ofText?_text_plain (d : Decimal) : ofText? d.text = some d.plain := by
  obtain ⟨scan, run, coefficient, scale⟩ := Scan.run_magnitudeChars d.coefficient_lt d.scale_le
  -- The digits and the scale make the decimal again, once the sign is put back. The sign that is
  -- shown may be that of a zero, where it changes nothing.
  have made {negative : Bool} (sign : negative = true ↔ d.coefficient < 0 ∨ d.minusZero = true) :
      mk? (signed negative scan.coefficient) scan.scale = some d.plain := by
    have same : signed negative scan.coefficient = d.coefficient := by
      rw [coefficient]
      cases negative with
      | true =>
        have low : d.coefficient ≤ 0 := by
          rcases sign.1 rfl with less | zero
          · exact Int.le_of_lt less
          · exact Int.le_of_eq (d.coefficient_of_minusZero zero)
        rw [signed, if_pos rfl]
        omega
      | false =>
        have high : ¬ d.coefficient < 0 := fun less => Bool.noConfusion (sign.2 (.inl less))
        rw [signed, if_neg nofun]
        omega
    rw [same, scale, mk?, dif_pos ⟨d.coefficient_lt, d.scale_le⟩]
    rfl
  have literal : literal? d.chars = some d.plain := by
    rw [literal?, chars]
    by_cases shown : d.coefficient < 0 ∨ d.minusZero = true
    · rw [if_pos shown]
      simp only [List.cons_append, List.nil_append, takeSign, run, Option.bind_eq_bind,
        Option.bind_some]
      exact made (iff_of_true rfl shown)
    · obtain ⟨c, rest, first, digit⟩ := magnitudeChars_eq_cons d.coefficient.natAbs d.scale
      have sign : takeSign (magnitudeChars d.coefficient.natAbs d.scale) =
          (false, magnitudeChars d.coefficient.natAbs d.scale) := by
        rw [first, takeSign]
        · rintro _ ⟨⟩
          cases digit
        · rintro _ ⟨⟩
          cases digit
      rw [if_neg shown, List.nil_append, sign]
      simp only [run, Option.bind_eq_bind, Option.bind_some]
      exact made (iff_of_false nofun shown)
  rw [ofText?, text, String.toList_ofList, ofChars?, literal, Option.some_or]

end Decimal

end CurrencyLedger
