import CurrencyLedger.Uuid
import Mathlib.Tactic.Ring

/-! # Reading identifiers back

* **`Uuid.foldl_nibbles`** — the hexadecimal digits of a number spell it;
* **`Uuid.ofText?_text`** — an identifier is read back from its text. -/

namespace CurrencyLedger

/-- A hexadecimal digit is read back. -/
theorem Json.hexValue?_hexDigit : ∀ {d : Nat}, d < 16 → hexValue? (Text.hexDigit d) = some d := by
  decide

namespace Uuid

/-! ## Digits -/

/-- A hexadecimal digit is none of the characters that other forms begin with. -/
theorem hexDigit_ne : ∀ {d : Nat}, d < 16 →
    (Text.hexDigit d).toLower ≠ 'u' ∧ Text.hexDigit d ≠ '\x7b' := by
  decide

/-- The lowest hexadecimal digits of a number above some of them spell what is there. -/
theorem foldl_nibbles (n low count : Nat) :
    ((List.range count).map fun i => (n >>> (4 * (low + (count - 1 - i)))) % 16).foldl
      (fun n d => 16 * n + d) 0 = (n >>> (4 * low)) % 16 ^ count := by
  -- By induction on how many digits there are: the last one is the lowest, the others are those of
  -- a number shifted by one digit.
  induction count generalizing low with
  | zero => simp [Nat.mod_one]
  | succ count ih =>
    have shifted : (List.range count).map
          (fun i => (n >>> (4 * (low + (count + 1 - 1 - i)))) % 16) =
        (List.range count).map fun i => (n >>> (4 * (low + 1 + (count - 1 - i)))) % 16 := by
      refine List.map_congr_left fun i mem => ?_
      have less := List.mem_range.1 mem
      rw [show low + (count + 1 - 1 - i) = low + 1 + (count - 1 - i) by omega]
    have above : n >>> (4 * (low + 1)) = n >>> (4 * low) / 16 := by
      rw [show 4 * (low + 1) = 4 * low + 4 by ring, Nat.shiftRight_add, Nat.shiftRight_eq_div_pow]
    rw [List.range_succ, List.map_append, List.foldl_append, shifted, ih (low + 1), above]
    simp only [List.map_cons, List.map_nil, List.foldl_cons, List.foldl_nil]
    rw [show low + (count + 1 - 1 - count) = low by omega, Nat.pow_succ', Nat.mod_mul]
    omega

/-- The digits of an identifier are read back. -/
theorem ofDigits?_hexChars (u : Uuid) : ofDigits? u.hexChars = some u := by
  -- Every digit is read back by itself.
  have read : u.hexChars.mapM Json.hexValue? =
      some ((List.range 32).map fun i => (u.bits.toNat >>> (4 * (0 + (32 - 1 - i)))) % 16) := by
    have each : (fun i => Json.hexValue? (Text.hexDigit ((u.bits.toNat >>> (4 * (31 - i))) % 16))) =
        fun i => some ((u.bits.toNat >>> (4 * (0 + (32 - 1 - i)))) % 16) := by
      funext i
      rw [Json.hexValue?_hexDigit (Nat.mod_lt _ (by decide)), Nat.zero_add]
    rw [hexChars, List.mapM_map]
    show (List.range 32).mapM (fun i => Json.hexValue? (Text.hexDigit
      ((u.bits.toNat >>> (4 * (31 - i))) % 16))) = _
    rw [each]
    exact List.mapM_pure
  have spelled : ((List.range 32).map fun i =>
      (u.bits.toNat >>> (4 * (0 + (32 - 1 - i)))) % 16).foldl (fun n d => 16 * n + d) 0 =
        u.bits.toNat := by
    rw [foldl_nibbles]
    exact Nat.mod_eq_of_lt u.bits.isLt
  rw [ofDigits?, read]
  simp only [Option.bind_eq_bind, Option.bind_some]
  rw [if_pos (by simp), spelled, BitVec.ofNat_toNat, BitVec.setWidth_eq]

/-! ## Groups -/

/-- Digits in groups are read as digits without hyphens. -/
theorem ofGroups?_append {a b c d e : List Char} (ha : a.length = 8) (hb : b.length = 4)
    (hc : c.length = 4) (hd : d.length = 4) (he : e.length = 12) :
    ofGroups? (a ++ '-' :: (b ++ '-' :: (c ++ '-' :: (d ++ '-' :: e)))) =
      ofDigits? (a ++ b ++ c ++ d ++ e) := by
  have past {l : List Char} {n k : Nat} (h : l.length = n) (le : n ≤ k) : l.drop k = [] :=
    List.drop_eq_nil_of_le (h ▸ le)
  rw [ofGroups?, if_pos (by simp [ha, hb, hc, hd, he])]
  simp [ha, hb, hc, hd, List.drop_append, past ha (k := 9), past ha (k := 14), past ha (k := 19),
    past ha (k := 24), past hb (k := 5), past hb (k := 10), past hb (k := 15), past hc (k := 5),
    past hc (k := 10), past hd (k := 5)]

/-- An identifier is read back from its text. -/
theorem ofText?_text (u : Uuid) : ofText? u.text = some u := by
  have length : u.hexChars.length = 32 := by simp [hexChars]
  obtain ⟨first, rest, chars, small⟩ : ∃ d rest, u.hexChars = Text.hexDigit d :: rest ∧ d < 16 :=
    ⟨_, _, rfl, Nat.mod_lt _ (by decide)⟩
  obtain ⟨not_urn, not_brace⟩ := hexDigit_ne small
  have grouped : ofGroups? (u.hexChars.take 8 ++ '-' :: ((u.hexChars.drop 8).take 4 ++ '-' ::
      ((u.hexChars.drop 12).take 4 ++ '-' :: ((u.hexChars.drop 16).take 4 ++ '-' ::
        u.hexChars.drop 20)))) = some u := by
    rw [ofGroups?_append (by simp [length]) (by simp [length]) (by simp [length])
      (by simp [length]) (by simp [length])]
    have whole : u.hexChars.take 8 ++ (u.hexChars.drop 8).take 4 ++ (u.hexChars.drop 12).take 4 ++
        (u.hexChars.drop 16).take 4 ++ u.hexChars.drop 20 = u.hexChars := by
      rw [← List.take_add, ← List.take_add, ← List.take_add, List.take_append_drop]
    rw [whole, ofDigits?_hexChars]
  have begins (tail : List Char) :
      u.hexChars.take 8 ++ tail = Text.hexDigit first :: (rest.take 7 ++ tail) := by
    rw [chars]
    rfl
  have urn : ∃ tail, urnStart = 'u' :: tail := ⟨_, rfl⟩
  rw [ofText?, text, String.toList_ofList]
  rw [begins] at grouped ⊢
  -- The text is none of the other forms: it begins otherwise, and is longer than its digits.
  rw [ofChars?, if_neg]
  · rw [if_neg, grouped]
    have longer : rest.length = 31 := by
      rw [chars, List.length_cons] at length
      omega
    simp [longer, length]
  · intro same
    obtain ⟨tail, urn⟩ := urn
    rw [urn, List.take_succ_cons, List.map_cons] at same
    exact not_urn (List.cons.inj same).1
  · intro tail same
    exact not_brace (List.cons.inj same).1

end Uuid

end CurrencyLedger
