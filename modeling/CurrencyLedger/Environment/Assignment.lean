import CurrencyLedger.Environment.Basic
import CurrencyLedger.Text.Alphanumeric
import CurrencyLedger.Text.Blank

/-! # Assignments

A line of an environment file gives a name a value: `NAME=value`, with `export` in front if wanted
and blanks around the equals sign.

* In single quotes every character stands for itself. In double quotes and outside quotes a
  backslash makes a quote, a backslash, a dollar sign, a blank or (as `\n`) a line feed.
* `$NAME` and `$` with a name in braces refer to the text of a name. Without braces the name is the
  letters and digits that follow, and the character after them stands for itself, whatever it is.
* A value ends at a blank outside quotes, after which only a comment may follow.

The value is read into pieces first; `Assignment.text` gives them their meaning. -/

namespace CurrencyLedger

/-- A piece of a value. -/
inductive ValuePiece where
  /-- A character that stands for itself. -/
  | char (c : Char)
  /-- The text of a name. -/
  | reference (name : String)
  deriving DecidableEq, Repr

/-- What the characters of a value so far leave open. -/
inductive ValueState where
  /-- Text, inside double quotes or outside quotes. -/
  | text (quoted : Bool)
  /-- Text inside single quotes. -/
  | single
  /-- A backslash. -/
  | escape (quoted : Bool)
  /-- A dollar sign and the start of a name. -/
  | reference (quoted : Bool) (name : List Char)
  /-- A dollar sign, a brace and the start of a name. -/
  | braces (quoted : Bool) (name : List Char)
  /-- The end of the value. -/
  | ended
  deriving DecidableEq, Repr

/-- What a backslash makes of a character. -/
def ValueState.unescape? (c : Char) : Option Char :=
  if c == 'n' then some '\n' else if "\\'\"$ ".toList.contains c then some c else none

/-- The pieces of the rest of a value, given what is open. -/
def ValueState.pieces? (s : ValueState) : List Char → Option (List ValuePiece)
  | [] =>
    match s with
    | .text false | .escape false | .ended => some []
    | .reference false name => some [.reference (String.ofList name)]
    | _ => none
  | c :: rest =>
    match s with
    | .ended =>
      if c == ' ' || c == '\t' then pieces? .ended rest else if c == '#' then some [] else none
    | .escape quoted => do
      let d ← unescape? c
      pure (.char d :: (← pieces? (.text quoted) rest))
    | .single =>
      if c == '\'' then pieces? (.text false) rest
      else (pieces? .single rest).map (.char c :: ·)
    | .reference quoted name =>
      if Text.isAlphanumeric c then pieces? (.reference quoted (name ++ [c])) rest
      else if c == '\x7b' && name.isEmpty then pieces? (.braces quoted []) rest
      else if c == '$' then
        (pieces? (.reference quoted []) rest).map (.reference (String.ofList name) :: ·)
      else
        (pieces? (.text quoted) rest).map ([.reference (String.ofList name), .char c] ++ ·)
    | .braces quoted name =>
      if c == '\x7d' then
        (pieces? (.text quoted) rest).map (.reference (String.ofList name) :: ·)
      else pieces? (.braces quoted (name ++ [c])) rest
    | .text quoted =>
      if c == '$' then pieces? (.reference quoted []) rest
      else if c == '\\' then pieces? (.escape quoted) rest
      else if c == '"' then pieces? (.text !quoted) rest
      else if c == '\'' && !quoted then pieces? .single rest
      else if (c == ' ' || c == '\t') && !quoted then pieces? .ended rest
      else (pieces? (.text quoted) rest).map (.char c :: ·)

/-- A name with the pieces of its value. -/
structure Assignment where
  /-- The name. -/
  name : String
  /-- The pieces of its value. -/
  value : List ValuePiece
  deriving DecidableEq, Repr

namespace Assignment

/-- Whether a name may start with a character. -/
def isNameStart (c : Char) : Bool := c.isAlpha || c == '_'

/-- Whether a character may follow in a name. -/
def isNameRest (c : Char) : Bool := c.isAlphanum || c == '_' || c == '.'

/-- The name at the start of a text, and what follows it and the blanks after it. -/
def takeName? : List Char → Option (String × List Char)
  | [] => none
  | c :: rest =>
    if isNameStart c then
      some (String.ofList (c :: rest.takeWhile isNameRest),
        Text.trimStart (rest.dropWhile isNameRest))
    else none

/-- The assignment of a name by an equals sign and a value. -/
def ofValue? (name : String) : List Char → Option Assignment
  | '=' :: rest =>
    let text := Text.trimStart rest
    if text.isEmpty || text.head? == some '#' then some ⟨name, []⟩
    else (ValueState.pieces? (.text false) text).map (⟨name, ·⟩)
  | _ => none

/-- Reads an assignment from a line without blanks at its ends. -/
def ofLine? (line : List Char) : Option Assignment := do
  let (name, rest) ← takeName? line
  if name == "export" && rest.head? != some '=' then
    let (name, rest) ← takeName? rest
    ofValue? name rest
  else ofValue? name rest

/-- The names that a value refers to. -/
def references (a : Assignment) : List String :=
  a.value.filterMap fun
    | .reference name => some name
    | .char _ => none

/-- The text of the value in an environment; a name without a text counts as empty. -/
def text (a : Assignment) (env : Environment) : String :=
  String.join (a.value.map fun
    | .char c => String.singleton c
    | .reference name => (env.get? name).getD "")

end Assignment

namespace Environment

/-- An environment after an assignment, which refers to what is there and does not replace it. -/
def assign (env : Environment) (a : Assignment) : Environment := env.add a.name (a.text env)

end Environment

end CurrencyLedger
