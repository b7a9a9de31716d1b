import CurrencyLedger.Decimal.Basic
import CurrencyLedger.Json.Parser
import CurrencyLedger.Json.Printer

/-! # Reading JSON text back

The compact text of a value is read as that value again, unless it holds numbers that are rounded or
nests too deeply. So values with one text are one value.

* **`Json.isExact`** — values that can be read back;
* **`Json.string?_flatMap_escapeChar`**, **`Json.lexeme?_ofInt`** — strings and numbers;
* **`Json.value_chars`** — values among others;
* **`Json.parse?_text`** — values by themselves;
* **`Json.text_inj`** — two values with one text. -/

namespace CurrencyLedger

namespace Numeral

/-- No numeral begins with a zero but that of zero. -/
theorem head?_digits_ne {n : Nat} (positive : n ≠ 0) : (digits n).head? ≠ some '0' := by
  induction n using Nat.strongRecOn with
  | _ n ih =>
    by_cases small : n < 10
    · have first : ∀ d < 10, d ≠ 0 → digitChar d ≠ '0' := by decide
      rw [digits_of_lt small]
      exact fun same => first n small positive (Option.some.inj same)
    · rw [digits_of_ge small, List.head?_append, Option.or_of_isSome]
      · exact ih (n / 10) (by omega) (by omega)
      · exact List.isSome_head?.2 (digits_ne_nil _)

/-- The numeral of zero is one digit. -/
theorem digits_zero : digits 0 = ['0'] := digits_of_lt (by decide)

/-- An integer begins with a minus sign or a digit. -/
theorem exists_ofInt_eq_cons (n : Int) :
    ∃ c s, ofInt n = c :: s ∧ (c = '-' ∨ c.isDigit = true) := by
  by_cases negative : n < 0
  · exact ⟨'-', digits n.natAbs, if_pos negative, .inl rfl⟩
  · have all := all_isDigit_digits n.natAbs
    cases ds : digits n.natAbs with
    | nil => exact absurd ds (digits_ne_nil _)
    | cons d ds' =>
      rw [ds, List.all_cons, Bool.and_eq_true] at all
      exact ⟨d, ds', by rw [ofInt, if_neg negative, ds], .inr all.1⟩

end Numeral

namespace Json

variable {c : Char} {s rest : List Char} {room depth fuel : Nat}

/-! ## Strings -/

/-- A control character that is written as a unit stands for itself. -/
theorem joinPieces?_unit {n : Nat} (small : n < 0x20) (pieces : List Piece) :
    joinPieces? (.unit n :: pieces) = (joinPieces? pieces).map (Char.ofNat n :: ·) := by
  have high : isHighHalf n = false := by
    rw [isHighHalf, Bool.and_eq_false_iff, decide_eq_false_iff_not]
    omega
  have low : isLowHalf n = false := by
    rw [isLowHalf, Bool.and_eq_false_iff, decide_eq_false_iff_not]
    omega
  cases pieces with
  | nil => simp [joinPieces?, high, low]
  | cons piece pieces => cases piece <;> simp [joinPieces?, high, low]

/-- An escape of one letter is one piece. -/
theorem pieces?_escaped {letter : Char} (stands : escaped? letter = some c) (rest : List Char) :
    pieces? ('\\' :: letter :: rest) =
      (pieces? rest).map fun read => (.char c :: read.1, read.2) := by
  have other : letter ≠ 'u' := by
    rintro rfl
    cases stands
  rw [pieces?, stands]
  · cases pieces? rest <;> rfl
  · exact fun _ _ _ _ _ same => absurd same other

/-- A unit in hexadecimal is one piece. -/
theorem pieces?_unit {c₁ c₂ c₃ c₄ : Char} {n : Nat} (stands : hexUnit? c₁ c₂ c₃ c₄ = some n)
    (rest : List Char) : pieces? ('\\' :: 'u' :: c₁ :: c₂ :: c₃ :: c₄ :: rest) =
      (pieces? rest).map fun read => (.unit n :: read.1, read.2) := by
  rw [pieces?, stands]
  cases pieces? rest <;> rfl

/-- A character that needs no escape is one piece. -/
theorem pieces?_char (quote : c ≠ '"') (slash : c ≠ '\\') (shown : ¬ c.toNat < 0x20)
    (rest : List Char) : pieces? (c :: rest) =
      (pieces? rest).map fun read => (.char c :: read.1, read.2) := by
  have plain : (c == '\\' || decide (c.toNat < 0x20)) = false := by simp [slash, shown]
  rw [pieces?]
  · rw [plain]
    cases pieces? rest <;> rfl
  · exact fun same => quote same
  · exact fun _ _ _ _ _ same => absurd same slash
  · exact fun _ _ same => absurd same slash

/-- The characters with an escape of one letter, and the letters. -/
def letters : List (Char × Char) :=
  [('"', '"'), ('\\', '\\'), ('\x08', 'b'), ('\x0c', 'f'), ('\n', 'n'), ('\r', 'r'), ('\t', 't')]

/-- What a character is shown as is read as one piece that stands for the character. -/
theorem exists_piece (c : Char) : ∃ piece : Piece,
    (∀ rest, pieces? (escapeChar c ++ rest) =
      (pieces? rest).map fun read => (piece :: read.1, read.2)) ∧
    ∀ pieces, joinPieces? (piece :: pieces) = (joinPieces? pieces).map (c :: ·) := by
  have escapes : ∀ p ∈ letters, escapeChar p.1 = ['\\', p.2] ∧ escaped? p.2 = some p.1 := by
    decide
  by_cases special : ∃ letter, (c, letter) ∈ letters
  · obtain ⟨letter, mem⟩ := special
    obtain ⟨shown, stands⟩ := escapes _ mem
    refine ⟨.char c, fun rest => ?_, fun _ => by rw [joinPieces?]⟩
    rw [shown]
    exact pieces?_escaped stands rest
  · simp only [letters, List.mem_cons, Prod.mk.injEq, List.not_mem_nil, or_false, exists_or,
      exists_and_left, exists_eq, and_true, not_or] at special
    obtain ⟨quote, slash, special⟩ := special
    have shown : escapeChar c = if c.toNat < 0x20 then
        ['\\', 'u', '0', '0', Text.hexDigit (c.toNat / 16), Text.hexDigit (c.toNat % 16)]
        else [c] := by
      simp [escapeChar, quote, slash, special]
    by_cases control : c.toNat < 0x20
    · have unit : ∀ n < 0x20, hexUnit? '0' '0' (Text.hexDigit (n / 16)) (Text.hexDigit (n % 16)) =
          some n := by decide
      refine ⟨.unit c.toNat, fun rest => ?_, fun pieces => ?_⟩
      · rw [shown, if_pos control]
        exact pieces?_unit (unit _ control) rest
      · rw [joinPieces?_unit control, Char.ofNat_toNat]
    · refine ⟨.char c, fun rest => ?_, fun _ => by rw [joinPieces?]⟩
      rw [shown, if_neg control]
      exact pieces?_char quote slash control rest

/-- The characters of a string are read back up to its closing quote. -/
theorem string?_flatMap_escapeChar (s rest : List Char) :
    string? (s.flatMap escapeChar ++ '"' :: rest) = some (some (String.ofList s), rest) := by
  have all : ∃ pieces, pieces? (s.flatMap escapeChar ++ '"' :: rest) = some (pieces, rest) ∧
      joinPieces? pieces = some s := by
    induction s with
    | nil => exact ⟨[], rfl, rfl⟩
    | cons c s ih =>
      obtain ⟨pieces, reads, joined⟩ := ih
      obtain ⟨piece, first, stands⟩ := exists_piece c
      refine ⟨piece :: pieces, ?_, ?_⟩
      · rw [List.flatMap_cons, List.append_assoc, first, reads]
        rfl
      · rw [stands, joined]
        rfl
  obtain ⟨pieces, reads, joined⟩ := all
  rw [string?, reads]
  show some ((joinPieces? pieces).map String.ofList, rest) = _
  rw [joined]
  rfl

/-! ## Numbers -/

/-- What may follow a number: nothing that would be part of it. -/
def Ends (rest : List Char) : Prop :=
  ∀ c ∈ rest.head?, c.isDigit = false ∧ c ≠ '.' ∧ c ≠ 'e' ∧ c ≠ 'E'

/-- Digits are taken up to what may follow them. -/
theorem takeDigits_append {ds : List Char} (all : ds.all Char.isDigit = true) (ends : Ends rest) :
    takeDigits (ds ++ rest) = (ds, rest) := by
  have stops : rest.takeWhile Char.isDigit = [] ∧ rest.dropWhile Char.isDigit = rest := by
    cases rest with
    | nil => exact ⟨rfl, rfl⟩
    | cons c rest =>
      have no := (ends c rfl).1
      exact ⟨List.takeWhile_cons_of_neg (by simp [no]), List.dropWhile_cons_of_neg (by simp [no])⟩
  rw [List.all_eq_true] at all
  rw [takeDigits, List.takeWhile_append_of_pos all, List.dropWhile_append_of_pos all, stops.1,
    stops.2, List.append_nil]

/-- An integer is read as its digits. -/
theorem lexeme?_ofInt (n : Int) (ends : Ends rest) : lexeme? (Numeral.ofInt n ++ rest) =
    some (⟨decide (n < 0), Numeral.digits n.natAbs, [], none⟩, rest) := by
  have solid : (Numeral.digits n.natAbs).isEmpty = false :=
    List.isEmpty_eq_false_iff.2 (Numeral.digits_ne_nil _)
  have lean : ((Numeral.digits n.natAbs).head? == some '0' &&
      (Numeral.digits n.natAbs).length != 1) = false := by
    by_cases zero : n.natAbs = 0
    · rw [zero, Numeral.digits_zero]
      rfl
    · rw [beq_eq_false_iff_ne.2 (Numeral.head?_digits_ne zero)]
      rfl
  have plain : fraction? rest = some ([], rest) := by
    cases rest with
    | nil => rfl
    | cons c rest =>
      rw [fraction?]
      exact fun _ same => absurd (List.cons.inj same).1 (ends c rfl).2.1
  have unscaled : power? rest = some (none, rest) := by
    cases rest with
    | nil => rfl
    | cons c rest =>
      obtain ⟨-, -, lower, upper⟩ := ends c rfl
      simp [power?, lower, upper]
  have taken := takeDigits_append (Numeral.all_isDigit_digits n.natAbs) ends
  by_cases negative : n < 0
  · rw [Numeral.ofInt, if_pos negative, List.cons_append, lexeme?]
    simp only [taken, solid, lean, plain, unscaled, negative, Bool.or_false, Bool.false_eq_true,
      if_false, decide_true, Option.bind_eq_bind, Option.bind_some]
    rfl
  · rw [Numeral.ofInt, if_neg negative, lexeme?]
    · simp only [taken, solid, lean, plain, unscaled, negative, Bool.or_false, Bool.false_eq_true,
        if_false, decide_false, Option.bind_eq_bind, Option.bind_some]
      rfl
    · -- What begins with a digit does not begin with a sign.
      intro more same
      have all := Numeral.all_isDigit_digits n.natAbs
      cases ds : Numeral.digits n.natAbs with
      | nil => exact Numeral.digits_ne_nil _ ds
      | cons d ds' =>
        rw [ds] at same all
        obtain rfl := (List.cons.inj same).1
        cases all

/-- The digits of an integer of 64 bits, with or without a sign, are read as the integer. -/
theorem toJson_ofInt {n : Int} (small : -0x8000000000000000 ≤ n ∧ n < 0x10000000000000000) :
    Lexeme.toJson ⟨decide (n < 0), Numeral.digits n.natAbs, [], none⟩ = .int n := by
  have read : Lexeme.int? ⟨decide (n < 0), Numeral.digits n.natAbs, [], none⟩ = some n := by
    have whole : (!([] : List Char).isEmpty || (none : Option Int).isSome) = false := rfl
    rw [Lexeme.int?]
    simp only [Numeral.value_digits, whole, Bool.false_eq_true, if_false, decide_eq_true_eq]
    by_cases negative : n < 0
    · have fits : n.natAbs ≠ 0 ∧ 2 * n.natAbs ≤ Numeral.bound64 := by
        rw [Numeral.bound64]
        omega
      have same : -(n.natAbs : Int) = n := by omega
      rw [if_pos negative, if_pos fits, same]
    · have fits : n.natAbs < Numeral.bound64 := by
        rw [Numeral.bound64]
        omega
      have same : (n.natAbs : Int) = n := by omega
      rw [if_neg negative, if_pos fits, same]
  rw [Lexeme.toJson, read]

/-! ## Values -/

mutual

/-- Whether a value can be read back that stands in an object or a list where it may have parts on
`room` levels: its numbers are integers of 64 bits, with or without a sign, and nothing in it is
unreadable. -/
def isExact : Nat → Json → Bool
  | _, .null | _, .bool _ | _, .str _ => true
  | _, .int n => decide (-0x8000000000000000 ≤ n ∧ n < 0x10000000000000000)
  | room + 1, .arr items => areExact room items
  | room + 1, .obj members => membersExact room members
  | _, _ => false

/-- Whether every item can be read back. -/
def areExact : Nat → List Json → Bool
  | _, [] => true
  | room, item :: items => isExact room item && areExact room items

/-- Whether every member can be read back. -/
def membersExact : Nat → List (String × Json) → Bool
  | _, [] => true
  | room, (_, item) :: members => isExact room item && membersExact room members

end

/-- Numbers of 64 bits can be read back. -/
theorem isExact_int {n : Int} (room : Nat) (small : Decimal.isInt64 n = true) :
    isExact room (.int n) = true := by
  rw [Decimal.isInt64_iff, Decimal.minInt64, Decimal.maxInt64] at small
  cases room <;> exact decide_eq_true ⟨by omega, by omega⟩

/-- Texts can be read back. -/
theorem isExact_str (room : Nat) (s : String) : isExact room (.str s) = true := by
  cases room <;> rfl

/-- Members can be read back if those before and after some place can. -/
theorem membersExact_append (members more : List (String × Json)) :
    membersExact room (members ++ more) = (membersExact room members && membersExact room more) := by
  induction members with
  | nil => rfl
  | cons member members ih =>
    rw [List.cons_append, membersExact, membersExact, ih, Bool.and_assoc]

/-- Written items can be read back if each can. -/
theorem areExact_map {α : Type} {write : α → Json} {as : List α}
    (each : ∀ a ∈ as, isExact room (write a) = true) : areExact room (as.map write) = true := by
  induction as with
  | nil => rfl
  | cons a as ih =>
    rw [List.map_cons, areExact, each a List.mem_cons_self,
      ih fun a mem => each a (List.mem_cons_of_mem _ mem)]
    rfl

/-- No blanks stand before a character that is none. -/
theorem skipSpace_cons (solid : isSpace c = false) (s : List Char) :
    skipSpace (c :: s) = c :: s :=
  List.dropWhile_cons_of_neg (by simp [solid])

/-- Neither a minus sign nor a digit is a blank. -/
theorem isSpace_of_number (start : c = '-' ∨ c.isDigit = true) : isSpace c = false := by
  cases space : isSpace c with
  | false => rfl
  | true =>
    simp only [isSpace, Bool.or_eq_true, beq_iff_eq] at space
    rcases space with ((rfl | rfl) | rfl) | rfl <;> rcases start with start | start <;> cases start

/-- The text of a value begins with a character that is neither a blank nor the bracket that ends
a list. -/
theorem exists_chars_eq_cons {j : Json} (exact : isExact room j = true) :
    ∃ c s, j.chars = c :: s ∧ isSpace c = false ∧ c ≠ ']' := by
  cases j with
  | null => exact ⟨_, _, rfl, rfl, by decide⟩
  | bool b => cases b <;> exact ⟨_, _, rfl, rfl, by decide⟩
  | int n =>
    obtain ⟨c, s, same, start⟩ := Numeral.exists_ofInt_eq_cons n
    refine ⟨c, s, same, isSpace_of_number start, ?_⟩
    rintro rfl
    rcases start with start | start <;> cases start
  | real x => simp [isExact] at exact
  | str s => exact ⟨_, _, rfl, rfl, by decide⟩
  | arr items => exact ⟨_, _, rfl, rfl, by decide⟩
  | obj members => exact ⟨_, _, rfl, rfl, by decide⟩
  | unreadable => simp [isExact] at exact

/-- What begins like a number is read as one. -/
theorem value_number (start : c = '-' ∨ c.isDigit = true) (s : List Char) :
    value (fuel + 1) depth (c :: s) =
      (lexeme? (c :: s)).map fun read => (read.1.toJson, read.2) := by
  rw [value, skipSpace_cons (isSpace_of_number start)]
  split
  case h_7 => cases lexeme? (c :: s) <;> rfl
  all_goals
    rename_i same
    obtain ⟨rfl, -⟩ := List.cons.inj same
    rcases start with start | start <;> cases start

/-- Reading a text takes a step. -/
theorem exists_fuel {j : Json} (exact : isExact room j = true) (enough : j.chars.length ≤ fuel) :
    ∃ more, fuel = more + 1 := by
  obtain ⟨c, s, starts, -⟩ := exists_chars_eq_cons exact
  rw [starts, List.length_cons] at enough
  exact ⟨fuel - 1, by omega⟩

/-- A list with items is read as its items, up to the bracket after them. -/
theorem value_arr {s' : List Char} (starts : s = c :: s') (solid : isSpace c = false)
    (some' : c ≠ ']') : value (fuel + 1) depth ('[' :: s) =
      (items fuel (depth + 1) s).map fun read => (atDepth depth (.arr read.1), read.2) := by
  rw [value, skipSpace_cons rfl, starts]
  simp only [skipSpace_cons solid]
  split
  · rename_i same
    exact absurd (List.cons.inj same).1 some'
  · cases items fuel (depth + 1) (c :: s') <;> rfl

/-- An object with members is read as its members, up to the brace after them. -/
theorem value_obj {s' : List Char} (starts : s = '"' :: s') :
    value (fuel + 1) depth ('\x7b' :: s) =
      (members fuel (depth + 1) s).map fun read =>
        (atDepth depth (ofMembers read.1), read.2) := by
  rw [value, skipSpace_cons rfl, starts]
  show Option.bind (members fuel (depth + 1) ('"' :: s'))
    (fun read => some (atDepth depth (ofMembers read.1), read.2)) = _
  cases members fuel (depth + 1) ('"' :: s') <;> rfl

/-- The item before a comma comes before those that are read after it. -/
theorem items_comma {item : Json} (first : value fuel depth s = some (item, ',' :: rest)) :
    items (fuel + 1) depth s =
      (items fuel depth rest).map fun read => (item :: read.1, read.2) := by
  rw [items, first]
  show Option.bind (items fuel depth rest) (fun read => some (item :: read.1, read.2)) = _
  cases items fuel depth rest <;> rfl

/-- The item before a bracket is the last one. -/
theorem items_bracket {item : Json} (last : value fuel depth s = some (item, ']' :: rest)) :
    items (fuel + 1) depth s = some ([item], rest) := by
  rw [items, last]
  rfl

/-- The member before a comma comes before those that are read after it. -/
theorem members_comma {item : Json} (name : String)
    (first : value fuel depth s = some (item, ',' :: rest)) :
    members (fuel + 1) depth (stringChars name ++ ':' :: s) =
      (members fuel depth rest).map fun read => ((some name, item) :: read.1, read.2) := by
  have read := string?_flatMap_escapeChar name.toList (':' :: s)
  rw [stringChars, List.cons_append, List.append_assoc, List.singleton_append, members,
    skipSpace_cons rfl]
  simp only [read, Option.bind_eq_bind, Option.bind_some, String.ofList_toList,
    skipSpace_cons (c := ':') rfl, first, skipSpace_cons (c := ',') rfl]
  cases members fuel depth rest <;> rfl

/-- The member before a brace is the last one. -/
theorem members_brace {item : Json} (name : String)
    (last : value fuel depth s = some (item, '\x7d' :: rest)) :
    members (fuel + 1) depth (stringChars name ++ ':' :: s) = some ([(some name, item)], rest) := by
  have read := string?_flatMap_escapeChar name.toList (':' :: s)
  rw [stringChars, List.cons_append, List.append_assoc, List.singleton_append, members,
    skipSpace_cons rfl]
  simp only [read, Option.bind_eq_bind, Option.bind_some, String.ofList_toList,
    skipSpace_cons (c := ':') rfl, last, skipSpace_cons (c := '\x7d') rfl]
  rfl

/-- Members whose names can be read are those of an object. -/
theorem ofMembers_map (members : List (String × Json)) :
    ofMembers (members.map fun member => (some member.1, member.2)) = .obj members := by
  have all : ∀ f : Option String × Json → Option (String × Json),
      (∀ member, f (some member.1, member.2) = some member) →
      (members.map fun member => (some member.1, member.2)).mapM f = some members := by
    intro f reads
    induction members with
    | nil => rfl
    | cons member members ih =>
      rw [List.map_cons, List.mapM_cons, reads, ih]
      rfl
  rw [ofMembers, all _ fun _ => rfl]

/-- No part of a number follows a separator. -/
theorem ends_cons {c : Char} (separator : c ∈ [',', ']', '\x7d']) (rest : List Char) :
    Ends (c :: rest) := by
  rintro _ ⟨⟩
  simp only [List.mem_cons, List.not_mem_nil, or_false] at separator
  rcases separator with rfl | rfl | rfl <;> decide

mutual

/-- The text of a value is read back, whatever follows it. -/
theorem value_chars : ∀ (j : Json) {room depth fuel : Nat} {rest : List Char},
    isExact room j = true → depth + room ≤ 127 → j.chars.length ≤ fuel → Ends rest →
    value fuel depth (j.chars ++ rest) = some (j, rest)
  | .null, _, _, _, _, exact, _, enough, _ => by
    obtain ⟨fuel, rfl⟩ := exists_fuel exact enough
    rw [value]
    rfl
  | .bool true, _, _, _, _, exact, _, enough, _ => by
    obtain ⟨fuel, rfl⟩ := exists_fuel exact enough
    rw [value]
    rfl
  | .bool false, _, _, _, _, exact, _, enough, _ => by
    obtain ⟨fuel, rfl⟩ := exists_fuel exact enough
    rw [value]
    rfl
  | .int n, _, _, _, rest, exact, _, enough, ends => by
    obtain ⟨fuel, rfl⟩ := exists_fuel exact enough
    obtain ⟨c, s, same, start⟩ := Numeral.exists_ofInt_eq_cons n
    have read := lexeme?_ofInt n ends
    have small : -0x8000000000000000 ≤ n ∧ n < 0x10000000000000000 := of_decide_eq_true exact
    rw [same, List.cons_append] at read
    rw [chars, same, List.cons_append, value_number start, read, Option.map_some,
      toJson_ofInt small]
  | .str s, _, _, _, rest, exact, _, enough, _ => by
    obtain ⟨fuel, rfl⟩ := exists_fuel exact enough
    have read := string?_flatMap_escapeChar s.toList rest
    rw [chars, stringChars, List.cons_append, List.append_assoc, List.singleton_append, value,
      skipSpace_cons rfl]
    simp only [read, Option.bind_eq_bind, Option.bind_some, String.ofList_toList]
    rfl
  | .arr [], room + 1, depth, _, rest, exact, shallow, enough, _ => by
    obtain ⟨fuel, rfl⟩ := exists_fuel exact enough
    have within : depth < 127 := by omega
    rw [value]
    show some (atDepth depth (.arr []), rest) = _
    rw [atDepth, if_pos within]
  | .arr (item :: items'), room + 1, depth, _, rest, exact, shallow, enough, _ => by
    obtain ⟨fuel, rfl⟩ := exists_fuel exact enough
    have within : depth < 127 := by omega
    have parts : areExact room (item :: items') = true := exact
    obtain ⟨c, s, starts, solid, some'⟩ :=
      exists_chars_eq_cons (Bool.and_eq_true_iff.1 parts).1
    have text : (Json.arr (item :: items')).chars ++ rest =
        '[' :: (itemsChars (item :: items') ++ ']' :: rest) := by
      rw [chars, List.cons_append, List.append_assoc, List.singleton_append]
    have first : itemsChars (item :: items') ++ ']' :: rest =
        c :: (s ++ moreItemsChars items' ++ ']' :: rest) := by
      rw [itemsChars, starts, List.cons_append, List.cons_append]
    rw [chars, List.length_cons, List.length_append, List.length_singleton] at enough
    have read : items fuel (depth + 1) (itemsChars (item :: items') ++ ']' :: rest) =
        some (item :: items', rest) :=
      items_itemsChars (item :: items') (List.cons_ne_nil _ _) parts (by omega) (by omega)
    rw [text, value_arr first solid some', read, Option.map_some, atDepth, if_pos within]
  | .obj [], room + 1, depth, _, rest, exact, shallow, enough, _ => by
    obtain ⟨fuel, rfl⟩ := exists_fuel exact enough
    have within : depth < 127 := by omega
    rw [value]
    show some (atDepth depth (.obj []), rest) = _
    rw [atDepth, if_pos within]
  | .obj ((name, item) :: members'), room + 1, depth, _, rest, exact, shallow, enough, _ => by
    obtain ⟨fuel, rfl⟩ := exists_fuel exact enough
    have within : depth < 127 := by omega
    have parts : membersExact room ((name, item) :: members') = true := exact
    have text : (Json.obj ((name, item) :: members')).chars ++ rest =
        '\x7b' :: (membersChars ((name, item) :: members') ++ '\x7d' :: rest) := by
      rw [chars, List.cons_append, List.append_assoc, List.singleton_append]
    rw [chars, List.length_cons, List.length_append, List.length_singleton] at enough
    have read : members fuel (depth + 1)
        (membersChars ((name, item) :: members') ++ '\x7d' :: rest) =
          some (((name, item) :: members').map fun member => (some member.1, member.2), rest) :=
      members_membersChars ((name, item) :: members') (List.cons_ne_nil _ _) parts (by omega)
        (by omega)
    have quote : ∃ s, membersChars ((name, item) :: members') ++ '\x7d' :: rest = '"' :: s :=
      ⟨_, rfl⟩
    obtain ⟨_, first⟩ := quote
    rw [text, value_obj first, read, Option.map_some, atDepth, if_pos within, ofMembers_map]

/-- The texts of items are read back, up to the bracket after them. -/
theorem items_itemsChars : ∀ (items' : List Json) {room depth fuel : Nat} {rest : List Char},
    items' ≠ [] → areExact room items' = true → depth + room ≤ 127 →
    (itemsChars items').length + 1 ≤ fuel →
    items fuel depth (itemsChars items' ++ ']' :: rest) = some (items', rest)
  | [], _, _, _, _, some', _, _, _ => absurd rfl some'
  | [item], room, depth, fuel + 1, rest, _, exact, shallow, enough => by
    have first : isExact room item = true := (Bool.and_eq_true_iff.1 exact).1
    rw [itemsChars, moreItemsChars, List.append_nil] at enough ⊢
    exact items_bracket (value_chars item first shallow (by omega) (ends_cons (by decide) _))
  | item :: next :: more, room, depth, fuel + 1, rest, _, exact, shallow, enough => by
    obtain ⟨first, others⟩ := Bool.and_eq_true_iff.1 exact
    obtain ⟨c, s, starts, -⟩ := exists_chars_eq_cons first
    have text : itemsChars (item :: next :: more) =
        item.chars ++ ',' :: itemsChars (next :: more) := rfl
    rw [text, List.length_append, List.length_cons] at enough
    rw [text, List.append_assoc]
    have long : 0 < item.chars.length := by
      rw [starts]
      exact Nat.succ_pos _
    have read : value fuel depth
        (item.chars ++ ',' :: (itemsChars (next :: more) ++ ']' :: rest)) = some (item, _) :=
      value_chars item first shallow (by omega) (ends_cons (by decide) _)
    rw [List.cons_append, items_comma read,
      items_itemsChars (next :: more) (List.cons_ne_nil _ _) others shallow (by omega)]
    rfl

/-- The texts of members are read back, up to the brace after them. -/
theorem members_membersChars : ∀ (members' : List (String × Json)) {room depth fuel : Nat}
    {rest : List Char}, members' ≠ [] → membersExact room members' = true → depth + room ≤ 127 →
    (membersChars members').length + 1 ≤ fuel →
    members fuel depth (membersChars members' ++ '\x7d' :: rest) =
      some (members'.map fun member => (some member.1, member.2), rest)
  | [], _, _, _, _, some', _, _, _ => absurd rfl some'
  | [(name, item)], room, depth, fuel + 1, rest, _, exact, shallow, enough => by
    have first : isExact room item = true := (Bool.and_eq_true_iff.1 exact).1
    rw [membersChars, moreMembersChars, List.append_nil] at enough ⊢
    rw [List.length_append, List.length_cons] at enough
    rw [List.append_assoc, List.cons_append]
    exact members_brace name (value_chars item first shallow (by omega) (ends_cons (by decide) _))
  | (name, item) :: (other, next) :: more, room, depth, fuel + 1, rest, _, exact, shallow,
      enough => by
    obtain ⟨first, others⟩ := Bool.and_eq_true_iff.1 exact
    have text : membersChars ((name, item) :: (other, next) :: more) =
        stringChars name ++ ':' :: (item.chars ++ ',' :: membersChars ((other, next) :: more)) :=
      rfl
    rw [text, List.length_append, List.length_cons, List.length_append, List.length_cons] at enough
    rw [text, List.append_assoc, List.cons_append, List.append_assoc, List.cons_append]
    have read : value fuel depth
        (item.chars ++ ',' :: (membersChars ((other, next) :: more) ++ '\x7d' :: rest)) =
          some (item, _) :=
      value_chars item first shallow (by omega) (ends_cons (by decide) _)
    rw [members_comma name read, members_membersChars ((other, next) :: more)
      (List.cons_ne_nil _ _) others shallow (by omega)]
    rfl

end

/-- The text of a value that nests at most 127 deep is read back. -/
theorem parse?_text {j : Json} (exact : isExact 127 j = true) : parse? j.text = some j := by
  have read : value (2 * j.chars.length + 2) 0 (j.chars ++ []) = some (j, []) :=
    value_chars j exact (by decide) (by omega) nofun
  rw [List.append_nil] at read
  rw [parse?, text, String.toList_ofList, parseChars?, read]
  rfl

/-- Values with one text are one value. -/
theorem text_inj {j j' : Json} (exact : isExact 127 j = true) (exact' : isExact 127 j' = true) :
    j.text = j'.text ↔ j = j' := by
  refine ⟨fun same => ?_, congrArg text⟩
  have read := parse?_text exact
  rw [same, parse?_text exact'] at read
  exact (Option.some.inj read).symm

end Json

end CurrencyLedger
