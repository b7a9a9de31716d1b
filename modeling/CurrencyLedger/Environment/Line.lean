import CurrencyLedger.Text.Blank

/-! # Lines of an environment file

A line ends at a line feed that stands outside quotes, so a quoted value may run over several line
feeds. A line also ends at a hash sign after a single blank: what follows up to the line feed is a
comment. Lines that start with a hash sign are comments as a whole.

* **`takeLine?`** — the first line of a text and what follows it;
* **`lines`** — every complete line of a text. A text that ends inside quotes, after a backslash or
  after a single blank has no last line. -/

namespace CurrencyLedger.Environment

/-- What the characters of a line so far leave open. -/
inductive LineState where
  /-- Nothing. -/
  | plain
  /-- A blank after which a comment may start. -/
  | blank
  /-- A backslash outside quotes. -/
  | escape
  /-- A double quote. -/
  | double
  /-- A backslash inside double quotes. -/
  | doubleEscape
  /-- A single quote. -/
  | single
  /-- A backslash inside single quotes. -/
  | singleEscape
  deriving DecidableEq, Repr

/-- Whether a character is a blank within a line. -/
def isInnerBlank (c : Char) : Bool := Text.isBlank c && c != '\n' && c != '\r'

/-- What is open after one more character. -/
def LineState.next (s : LineState) (c : Char) : LineState :=
  match s with
  | .escape => .plain
  | .double => if c == '\\' then .doubleEscape else if c == '"' then .plain else .double
  | .doubleEscape => .double
  | .single => if c == '\\' then .singleEscape else if c == '\'' then .plain else .single
  | .singleEscape => .single
  | s =>
    if c == '\\' then .escape
    else if c == '"' then .double
    else if c == '\'' then .single
    else if s = .plain ∧ isInnerBlank c then .blank
    else .plain

/-- The characters after the next line feed. -/
def afterLine (text : List Char) : List Char := (text.dropWhile (· != '\n')).drop 1

theorem length_afterLine_le (text : List Char) : (afterLine text).length ≤ text.length := by
  have := (List.dropWhile_suffix (· != '\n') (l := text)).length_le
  simp only [afterLine, List.length_drop]
  omega

/-- The rest of a line, given what is open, and what follows the line. -/
def takeLine? (s : LineState) : List Char → Option (List Char × List Char)
  | [] => if s = .plain then some ([], []) else none
  | c :: text =>
    if s = .blank ∧ c = '#' then some ([], afterLine text)
    else if c = '\n' ∧ s.next c = .plain then some ([], text)
    else (takeLine? (s.next c) text).map fun (line, rest) => (c :: line, rest)

/-- What follows the line is no longer than the text. -/
theorem length_takeLine?_le {s : LineState} {text line rest : List Char}
    (h : takeLine? s text = some (line, rest)) : rest.length ≤ text.length := by
  induction text generalizing s line with
  | nil =>
    simp only [takeLine?] at h
    split at h <;> simp_all
  | cons c text ih =>
    simp only [takeLine?] at h
    split at h
    · cases h
      exact Nat.le_succ_of_le (length_afterLine_le text)
    · split at h
      · cases h
        exact Nat.le_succ _
      · obtain ⟨⟨more, after⟩, taken, same⟩ := Option.map_eq_some_iff.1 h
        cases same
        exact Nat.le_succ_of_le (ih taken)

/-- A line takes at least one character of a text that is not empty. -/
theorem length_takeLine?_lt {s : LineState} {c : Char} {text line rest : List Char}
    (h : takeLine? s (c :: text) = some (line, rest)) : rest.length < (c :: text).length := by
  simp only [takeLine?] at h
  refine Nat.lt_succ_of_le ?_
  split at h
  · cases h
    exact length_afterLine_le text
  · split at h
    · cases h
      exact Nat.le_refl _
    · obtain ⟨⟨more, after⟩, taken, same⟩ := Option.map_eq_some_iff.1 h
      cases same
      exact length_takeLine?_le taken

/-- Whether the text starts with a line that is a comment. -/
def startsWithComment (text : List Char) : Bool :=
  (Text.trimStart (text.takeWhile (· != '\n'))).head? == some '#'

/-- The complete lines of a text, without those that are comments. -/
def lines : List Char → List (List Char)
  | [] => []
  | c :: text =>
    if startsWithComment (c :: text) then lines (afterLine text)
    else match _h : takeLine? .plain (c :: text) with
      | none => []
      | some (line, rest) => line :: lines rest
termination_by text => text.length
decreasing_by
  · exact Nat.lt_succ_of_le (length_afterLine_le text)
  · exact length_takeLine?_lt _h

end CurrencyLedger.Environment
