import CurrencyLedger.Instant.Text
import CurrencyLedger.Proofs.Codec.Calendar
import CurrencyLedger.Proofs.Codec.Decimal

/-! # Reading instants back

* **`Instant.number?_padded`** — a numeral with zeros in front is read up to the next character;
* **`Instant.date?_append`**, **`Instant.time?_append`** — the parts of an instant;
* **`Instant.ofText?_text`** — an instant of a year that can be told is read back from its text. -/

namespace CurrencyLedger.Instant

/-! ## Numbers -/

/-- A digit is no blank. -/
theorem isBlank_of_isDigit {c : Char} (digit : c.isDigit = true) : Text.isBlank c = false := by
  simp only [Char.isDigit, Bool.and_eq_true, decide_eq_true_eq] at digit
  have lo : 48 ≤ c.toNat := UInt32.le_iff_toNat_le.1 digit.1
  have hi : c.toNat ≤ 57 := UInt32.le_iff_toNat_le.1 digit.2
  simp only [Text.isBlank, Bool.or_eq_false_iff, Bool.and_eq_false_iff, decide_eq_false_iff_not,
    beq_eq_false_iff_ne]
  omega

/-- Nothing is passed over before a character that is no blank. -/
theorem trimStart_cons {c : Char} (rest : List Char) (h : Text.isBlank c = false) :
    Text.trimStart (c :: rest) = c :: rest := by
  rw [Text.trimStart, List.dropWhile_cons_of_neg (by simp [h])]

/-- Digits are read up to the next character. -/
theorem number?_append {width : Nat} {ds rest : List Char} (digits : ds.all Char.isDigit = true)
    (some_digits : ds ≠ []) (le : ds.length ≤ width)
    (stop : ∀ c ∈ rest.head?, c.isDigit = false) :
    number? width (ds ++ rest) = some (Numeral.value ds, rest) := by
  have after : (rest.take (width - ds.length)).takeWhile Char.isDigit = [] := by
    cases rest with
    | nil => simp
    | cons c rest =>
      have other := stop c rfl
      cases width - ds.length with
      | zero => rfl
      | succ n => rw [List.take_succ_cons, List.takeWhile_cons_of_neg (by simp [other])]
  have taken : ((ds ++ rest).take width).takeWhile Char.isDigit = ds := by
    rw [List.take_append, List.take_of_length_le le,
      List.takeWhile_append_of_pos (fun c mem => List.all_eq_true.1 digits c mem), after,
      List.append_nil]
  rw [number?, taken, if_neg (by simp [some_digits]), List.drop_left]

/-- Digits end before a mark. -/
theorem stop_cons {c : Char} (rest : List Char) (mark : c.isDigit = false) :
    ∀ x ∈ (c :: rest).head?, x.isDigit = false := by
  rintro _ ⟨⟩
  exact mark

/-- A numeral with zeros in front begins with a digit. -/
theorem padded_eq_cons (width n : Nat) :
    ∃ c rest, Numeral.padded width n = c :: rest ∧ c.isDigit = true := by
  have all := Numeral.all_isDigit_padded width n
  cases h : Numeral.padded width n with
  | nil =>
    rw [Numeral.padded, List.append_eq_nil_iff] at h
    exact absurd h.2 (Numeral.digits_ne_nil n)
  | cons c rest =>
    rw [h, List.all_cons, Bool.and_eq_true] at all
    exact ⟨c, rest, rfl, all.1⟩

/-- A numeral with zeros in front is read up to the next character. -/
theorem number?_padded {width digits n : Nat} {rest : List Char} (positive : 0 < digits)
    (small : n < 10 ^ digits) (le : digits ≤ width) (stop : ∀ c ∈ rest.head?, c.isDigit = false) :
    number? width (Text.trimStart (Numeral.padded digits n ++ rest)) = some (n, rest) := by
  obtain ⟨c, tail, first, digit⟩ := padded_eq_cons digits n
  have trimmed : Text.trimStart (Numeral.padded digits n ++ rest) =
      Numeral.padded digits n ++ rest := by
    rw [first, List.cons_append, trimStart_cons _ (isBlank_of_isDigit digit)]
  rw [trimmed, number?_append (Numeral.all_isDigit_padded digits n) (by simp [first])
    (by rw [Numeral.length_padded positive small]; exact le) stop, Numeral.value_padded]

/-- A mark is read where it stands. -/
theorem expect?_cons {c : Char} (rest : List Char) (blank : Text.isBlank c = false) :
    expect? c (Text.trimStart (c :: rest)) = some rest := by
  rw [trimStart_cons rest blank, expect?, if_pos (beq_self_eq_true c)]

/-! ## Parts of an instant -/

/-- A year is read up to the next character. -/
theorem year?_append {rest : List Char} (year : Int)
    (stop : ∀ c ∈ rest.head?, c.isDigit = false) :
    year? (Text.trimStart (yearChars year ++ rest)) = some (year, rest) := by
  rw [yearChars]
  -- A year of four digits is written without a sign.
  by_cases plain : 0 ≤ year ∧ year ≤ 9999
  · obtain ⟨c, tail, first, digit⟩ := padded_eq_cons 4 year.toNat
    have four := number?_padded (n := year.toNat) (by decide : 0 < 4) (by omega) (Nat.le_refl 4) stop
    have same : ((year.toNat : Nat) : Int) = year := Int.toNat_of_nonneg plain.1
    rw [first, List.cons_append, trimStart_cons _ (isBlank_of_isDigit digit)] at four
    rw [if_pos plain, first, List.cons_append, trimStart_cons _ (isBlank_of_isDigit digit), year?,
      four, Option.map_some]
    · exact congrArg (fun y => some (y, rest)) same
    · rintro _ ⟨⟩
      cases digit
    · rintro _ ⟨⟩
      cases digit
  · -- A sign, and as many digits as there are.
    obtain ⟨c, tail, first, digit⟩ := padded_eq_cons 4 year.natAbs
    have within : (Numeral.padded 4 year.natAbs).length ≤
        (Numeral.padded 4 year.natAbs ++ rest).length := by
      rw [List.length_append]
      exact Nat.le_add_right _ _
    have all := number?_append (Numeral.all_isDigit_padded 4 year.natAbs) (by simp [first]) within
      stop
    rw [Numeral.value_padded] at all
    rw [if_neg plain]
    by_cases negative : year < 0
    · have same : -((year.natAbs : Nat) : Int) = year := by omega
      rw [if_pos negative, List.cons_append, trimStart_cons _ (by decide), year?, all,
        Option.map_some]
      exact congrArg (fun y => some (y, rest)) same
    · have same : ((year.natAbs : Nat) : Int) = year := by omega
      rw [if_neg negative, List.cons_append, trimStart_cons _ (by decide), year?, all,
        Option.map_some]
      exact congrArg (fun y => some (y, rest)) same

/-- A date is read up to the next character. -/
theorem date?_append {date : Date} {rest : List Char} (valid : date.isValid = true)
    (year : isYear date.year = true) (stop : ∀ c ∈ rest.head?, c.isDigit = false) :
    date? (yearChars date.year ++ '-' :: (Numeral.padded 2 date.month.toNat ++ '-' ::
      (Numeral.padded 2 date.day.toNat ++ rest))) = some (date, rest) := by
  -- Month and day have two digits.
  have bounds : 1 ≤ date.month ∧ date.month ≤ 12 ∧ 1 ≤ date.day ∧ date.day ≤ 31 := by
    simp only [Date.isValid, Bool.and_eq_true, decide_eq_true_eq] at valid
    have longest : monthLength date.year date.month ≤ 31 := by
      rw [monthLength]
      split
      · split <;> decide
      · split <;> decide
    omega
  have month : ((date.month.toNat : Nat) : Int) = date.month := Int.toNat_of_nonneg (by omega)
  have day : ((date.day.toNat : Nat) : Int) = date.day := Int.toNat_of_nonneg (by omega)
  rw [date?, year?_append date.year (stop_cons _ rfl)]
  simp only [Option.bind_eq_bind, Option.bind_some]
  rw [expect?_cons _ (by decide)]
  simp only [Option.bind_some]
  rw [number?_padded (by decide) (by omega) (Nat.le_refl 2) (stop_cons _ rfl)]
  simp only [Option.bind_some]
  rw [expect?_cons _ (by decide)]
  simp only [Option.bind_some]
  rw [number?_padded (by decide) (by omega) (Nat.le_refl 2) stop]
  simp only [Option.bind_some, month, day, year, valid, Bool.and_self, if_true]
  rfl

/-- A fraction is read in nanoseconds, by the value of its last digit. -/
theorem nanos?_padded {digits n u : Nat} (positive : 0 < digits) (le : digits ≤ 9)
    (small : n < 10 ^ digits) (is : Nat.pow 10 (9 - digits) = u) :
    nanos? ('.' :: Numeral.padded digits n ++ ['Z']) = some (n * u, ['Z']) := by
  obtain ⟨c, tail, first, -⟩ := padded_eq_cons digits n
  have length := Numeral.length_padded positive small
  have read : number? 9 (Numeral.padded digits n ++ ['Z']) = some (n, ['Z']) := by
    rw [number?_append (Numeral.all_isDigit_padded digits n) (by simp [first])
      (by rw [length]; exact le) (stop_cons [] (by decide)), Numeral.value_padded]
  rw [List.cons_append, nanos?]
  simp only [read, Option.bind_eq_bind, Option.bind_some, List.length_append, length,
    List.length_singleton, Nat.add_sub_cancel, is]
  rfl

/-- A fraction of a second is read back. -/
theorem nanos?_fractionChars {nano : Nat} (small : nano < 1000000000) :
    nanos? (fractionChars nano ++ ['Z']) = some (nano, ['Z']) := by
  rw [fractionChars]
  split
  case isTrue none => rw [none]; rfl
  case isFalse =>
    split
    case isTrue thousandths =>
      have same : nano / 1000000 * 1000000 = nano := by omega
      rw [nanos?_padded (by decide) (by decide) (by omega) (u := 1000000) (by decide), same]
    case isFalse =>
      split
      case isTrue millionths =>
        have same : nano / 1000 * 1000 = nano := by omega
        rw [nanos?_padded (by decide) (by decide) (by omega) (u := 1000) (by decide), same]
      case isFalse =>
        rw [nanos?_padded (by decide) (by decide) (by omega) (u := 1) (by decide), Nat.mul_one]

/-- What follows the seconds is the point of a fraction or the end. -/
theorem stop_fractionChars (nano : Nat) (rest : List Char) :
    ∀ c ∈ (fractionChars nano ++ 'Z' :: rest).head?, c.isDigit = false := by
  rw [fractionChars]
  split
  · exact stop_cons _ (by decide)
  · split
    · exact stop_cons _ (by decide)
    · split
      · exact stop_cons _ (by decide)
      · exact stop_cons _ (by decide)

/-- A time of day is read by its parts. -/
theorem time?_append {hour minute second nano : Nat} (hours : hour < 24) (minutes : minute < 60)
    (seconds : second ≤ 60) (small : nano < 1000000000) :
    time? (Numeral.padded 2 hour ++ ':' :: (Numeral.padded 2 minute ++ ':' ::
      (Numeral.padded 2 second ++ (fractionChars nano ++ ['Z'])))) =
      some (hour * 3600 + minute * 60 + (if second = 60 then 59 else second),
        if second = 60 then nano + 1000000000 else nano, ['Z']) := by
  rw [time?, number?_padded (by decide) (by omega) (Nat.le_refl 2) (stop_cons _ (by decide))]
  simp only [Option.bind_eq_bind, Option.bind_some]
  rw [expect?_cons _ (by decide)]
  simp only [Option.bind_some]
  rw [number?_padded (by decide) (by omega) (Nat.le_refl 2) (stop_cons _ (by decide))]
  simp only [Option.bind_some]
  rw [expect?_cons _ (by decide)]
  simp only [Option.bind_some]
  rw [number?_padded (by decide) (by omega) (Nat.le_refl 2) (stop_fractionChars nano [])]
  simp only [Option.bind_some, nanos?_fractionChars small]
  rw [if_pos ⟨hours, minutes, seconds⟩]
  rfl

/-- The time of day of an instant is read back; the sixtieth second of a minute is the leap second
that its nanoseconds tell of. -/
theorem time?_chars (t : Instant) :
    time? (Numeral.padded 2 (t.second / 3600) ++ ':' :: (Numeral.padded 2 (t.second / 60 % 60) ++
      ':' :: (Numeral.padded 2 (if 1000000000 ≤ t.nano then t.second % 60 + 1 else t.second % 60) ++
        (fractionChars (if 1000000000 ≤ t.nano then t.nano - 1000000000 else t.nano) ++ ['Z'])))) =
      some (t.second, t.nano, ['Z']) := by
  have second := t.second_lt
  have nano := t.nano_lt
  -- A leap second is written as the sixtieth of its minute, and read as the last one.
  have parts : t.second / 3600 * 3600 + t.second / 60 % 60 * 60 + t.second % 60 = t.second := by
    omega
  by_cases leap : 1000000000 ≤ t.nano
  · have last := t.leap_last leap
    rw [if_pos leap, if_pos leap,
      time?_append (by omega) (by omega) (by omega) (by omega), if_pos (by omega),
      if_pos (by omega), Nat.sub_add_cancel leap]
    rw [last] at parts
    rw [parts]
  · rw [if_neg leap, if_neg leap,
      time?_append (by omega) (by omega) (by omega) (by omega), if_neg (by omega),
      if_neg (by omega), parts]

/-! ## Instants -/

/-- An instant of a year that can be told is read back from its text. -/
theorem ofText?_text {t : Instant} (year : isYear (civil t.day).year = true) :
    ofText? t.text = some t := by
  have date := date?_append (isValid_civil t.day) year (stop_cons
    (Numeral.padded 2 (t.second / 3600) ++ ':' :: (Numeral.padded 2 (t.second / 60 % 60) ++
      ':' :: (Numeral.padded 2 (if 1000000000 ≤ t.nano then t.second % 60 + 1 else t.second % 60) ++
        (fractionChars (if 1000000000 ≤ t.nano then t.nano - 1000000000 else t.nano) ++ ['Z']))))
    (by decide : 'T'.isDigit = false))
  -- The offset is zero, so neither the day nor the second is moved.
  have zulu : offset? (Text.trimStart ['Z']) = some (0, []) := by decide
  have moved : ((t.second : Int) - 0) / 86400 = 0 := by
    have := t.second_lt
    omega
  have second : (((t.second : Int) - 0) % 86400).toNat = t.second := by
    have := t.second_lt
    omega
  rw [ofText?, text, String.toList_ofList, ofChars?, chars, date]
  simp only [Option.bind_eq_bind, Option.bind_some, separator?]
  rw [time?_chars t]
  simp only [Option.bind_some, zulu]
  rw [if_pos (by decide), dayOf_civil, moved, Int.add_zero, if_pos year, second, ofParts?,
    dif_pos ⟨t.second_lt, t.nano_lt, t.leap_last⟩]

/-- An instant that is read has a year that can be told. -/
theorem isYear_of_ofText? {s : String} {t : Instant} (read : ofText? s = some t) :
    isYear (civil t.day).year = true := by
  simp only [ofText?, ofChars?, Option.bind_eq_bind, Option.bind_eq_some_iff] at read
  obtain ⟨date, -, rest, -, time, -, offset, -, read⟩ := read
  split at read
  case isFalse => cases read
  split at read
  case isFalse => cases read
  case isTrue year =>
    rw [ofParts?] at read
    split at read
    · cases read
      exact year
    · cases read

/-- An instant that is read from a JSON value has a year that can be told. -/
theorem isYear_of_ofJson? {j : Json} {t : Instant} (read : ofJson? j = some t) :
    isYear (civil t.day).year = true := by
  cases j with
  | str s => exact isYear_of_ofText? read
  | _ => cases read

end CurrencyLedger.Instant
