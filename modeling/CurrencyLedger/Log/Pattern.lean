/-! # Patterns of field values

A rule may ask for a value of a field by a number or by a regular expression. Only whether it is
well formed matters here. An expression is scanned from left to right; what is still open decides
what may come next. Counted repetitions cannot occur, because a brace ends the field.

* **`PatternState.next?`** — what is open after one more character, if it may stand there;
* **`isPattern`** — whether a text is a number or an expression. -/

namespace CurrencyLedger

/-- What the characters of a regular expression so far leave open. -/
inductive PatternState where
  /-- A sequence within some groups, and whether a repetition may follow. -/
  | sequence (groups : Nat) (repeatable : Bool)
  /-- A backslash in a sequence. -/
  | escape (groups : Nat)
  /-- A parenthesis. -/
  | group (groups : Nat)
  /-- A parenthesis and a question mark. -/
  | extension (groups : Nat)
  /-- The letter before the name of a group. -/
  | beforeName (groups : Nat)
  /-- The name of a group, and whether it has a character. -/
  | name (groups : Nat) (begun : Bool)
  /-- Flags. -/
  | flags (groups : Nat)
  /-- Brackets, how deeply they are nested, and whether they hold something. -/
  | set (groups nested : Nat) (begun : Bool)
  /-- A backslash in brackets. -/
  | setEscape (groups nested : Nat)
  deriving DecidableEq, Repr

namespace PatternState

/-- Whether a backslash may stand before a character: punctuation, or a letter for a class, a
control or a code point. -/
def isEscapable (c : Char) : Bool :=
  (0x20 ≤ c.toNat && c.toNat < 0x7f && !c.isAlphanum && c != '<' && c != '>') ||
    "dDsSwWaftnrvpPxuU".toList.contains c

/-- What is open after one more character of a sequence. -/
def nextInSequence? (groups : Nat) (repeatable : Bool) (c : Char) : Option PatternState :=
  if c == '\\' then some (.escape groups)
  else if c == '[' then some (.set groups 1 false)
  else if c == '(' then some (.group groups)
  else if c == ')' then if groups = 0 then none else some (.sequence (groups - 1) true)
  else if c == '|' then some (.sequence groups false)
  else if c == '*' || c == '+' || c == '?' then
    if repeatable then some (.sequence groups true) else none
  else if c == '\x7b' then none
  else some (.sequence groups true)

/-- What is open after one more character, if it may stand there. -/
def next? (s : PatternState) (c : Char) : Option PatternState :=
  match s with
  | .sequence groups repeatable => nextInSequence? groups repeatable c
  | .escape groups =>
    if isEscapable c || c == 'A' || c == 'z' then some (.sequence groups true) else none
  | .group groups =>
    if c == '?' then some (.extension groups) else nextInSequence? (groups + 1) false c
  | .extension groups =>
    if c == ':' then some (.sequence (groups + 1) false)
    else if c == 'P' then some (.beforeName groups)
    else if c == '<' then some (.name groups false)
    else if "imsUuRx-".toList.contains c then some (.flags groups)
    else none
  | .beforeName groups => if c == '<' then some (.name groups false) else none
  | .name groups begun =>
    if c == '>' && begun then some (.sequence (groups + 1) false)
    else if c == '_' || c.isAlpha || (begun && (c.isDigit || ".[]".toList.contains c)) then
      some (.name groups true)
    else none
  | .flags groups =>
    if c == ':' then some (.sequence (groups + 1) false)
    else if c == ')' then some (.sequence groups false)
    else if "imsUuRx-".toList.contains c then some (.flags groups)
    else none
  | .set groups nested begun =>
    if c == '\\' then some (.setEscape groups nested)
    else if c == '[' then some (.set groups (nested + 1) false)
    else if c == ']' && begun then
      if nested ≤ 1 then some (.sequence groups true) else some (.set groups (nested - 1) true)
    else if c == '^' && !begun then some (.set groups nested false)
    else some (.set groups nested true)
  | .setEscape groups nested => if isEscapable c then some (.set groups nested true) else none

end PatternState

/-- Whether a text is a regular expression. -/
def isExpression (text : List Char) : Bool :=
  match text.foldlM PatternState.next? (.sequence 0 false) with
  | some (.sequence 0 _) => true
  | _ => false

/-- Whether a text is digits with at most one point among them. -/
def isFraction (text : List Char) : Bool :=
  text.any Char.isDigit && text.all (fun c => c.isDigit || c == '.') && text.count '.' ≤ 1

/-- Whether a text is a power of ten as scientific notation has it. -/
def isPower (text : List Char) : Bool :=
  let digits := match text with
    | '+' :: digits => digits
    | '-' :: digits => digits
    | digits => digits
  !digits.isEmpty && digits.all Char.isDigit

/-- Whether a text is a number after a plus sign, which no regular expression may start with. -/
def isPositive (text : List Char) : Bool :=
  match text with
  | '+' :: number =>
    let lower := number.map Char.toLower
    let mark := fun c => c == 'e'
    if ["inf".toList, "infinity".toList, "nan".toList].contains lower then true
    else match lower.dropWhile (!mark ·) with
      | [] => isFraction lower
      | _ :: power => isFraction (lower.takeWhile (!mark ·)) && isPower power
  | _ => false

/-- Whether a text is a number or a regular expression. -/
def isPattern (text : List Char) : Bool := isPositive text || isExpression text

end CurrencyLedger
