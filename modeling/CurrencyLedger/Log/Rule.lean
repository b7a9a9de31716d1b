import CurrencyLedger.Log.Event
import CurrencyLedger.Log.Pattern
import CurrencyLedger.Text.Alphanumeric
import CurrencyLedger.Text.Blank

/-! # Log rules

A rule says how much is logged of some events: a level for all of them, a target that theirs begin
with, fields that they have, or several of these, as in `target[span]=level` with names of fields in
braces after the name of the span. A rule that names a span, or the value of a field, is about spans
and decides about no event.

* **`LogRule.ofText?`** — reads a rule;
* **`LogRule.applies`** — whether a rule decides about an event. -/

namespace CurrencyLedger

/-- A field that a rule asks for. -/
structure LogField where
  /-- The name of the field. -/
  name : String
  /-- Whether the rule asks for a value of it. -/
  hasValue : Bool
  deriving DecidableEq, Repr

/-- How much is logged of some events. -/
structure LogRule where
  /-- What the targets begin with. -/
  target : Option String := none
  /-- The span that they happen in. -/
  span : Option String := none
  /-- The fields that they have. -/
  fields : List LogField := []
  /-- How much is logged. -/
  level : LogLevel := .trace
  deriving DecidableEq, Repr

namespace LogRule

/-! ## Reading -/

/-- Which part of a rule is being read. -/
inductive Part where
  /-- None yet. -/
  | start
  /-- A level or a target, which the end of the text will tell. -/
  | levelOrTarget (text : List Char)
  /-- The name of a span, in brackets. -/
  | span (text : List Char)
  /-- A field, in braces. -/
  | field (text : List Char)
  /-- What follows the fields. -/
  | fields
  /-- What follows the brackets. -/
  | target
  /-- A level. -/
  | level (text : List Char)
  deriving DecidableEq, Repr

/-- Whether a rule may start with a character other than a bracket. -/
def isStart (c : Char) : Bool := "-:_".toList.contains c || Text.isAlphanumeric c

/-- The field of a text that is not empty: a name, or a name and a pattern of its value. -/
def field? (text : List Char) : Option LogField :=
  let name := String.ofList (text.takeWhile (· != '='))
  match text.dropWhile (· != '=') with
  | [] => if text.isEmpty then none else some ⟨name, false⟩
  | _ :: value => if isPattern (value.takeWhile (· != '=')) then some ⟨name, true⟩ else none

/-- Reads one character, which decides what part comes next, and keeps the one that stands at its
place. -/
def step (r : LogRule) (part : Part) (seen kept : Char) : Option (LogRule × Part) :=
  match part with
  | .start =>
    if seen == '[' then some (r, .span [])
    else if isStart seen then some (r, .levelOrTarget [kept])
    else none
  | .levelOrTarget text =>
    if seen == '=' then some ({ r with target := some (String.ofList text) }, .level [])
    else if seen == '[' then some ({ r with target := some (String.ofList text) }, .span [])
    else some (r, .levelOrTarget (text ++ [kept]))
  | .span text =>
    if seen == ']' then some ({ r with span := some (String.ofList text) }, .target)
    else if seen == '\x7b' then
      some ({ r with span := if text.isEmpty then none else some (String.ofList text) }, .field [])
    else some (r, .span (text ++ [kept]))
  | .field text =>
    if seen == '\x7d' then
      (field? text).map fun field => ({ r with fields := r.fields ++ [field] }, .fields)
    else some (r, .field (text ++ [kept]))
  | .fields => if seen == ']' then some (r, .target) else none
  | .target => if seen == '=' then some (r, .level []) else none
  | .level text => some (r, .level (text ++ [kept]))

/-- The rule after its last character, given the characters that were kept back. A rule without a
level is for everything. -/
def finish (r : LogRule) (part : Part) (back : List Char) : Option LogRule :=
  match part with
  | .levelOrTarget text =>
    let text := String.ofList (text ++ back)
    match LogLevel.ofText? text with
    | some level => some { r with level }
    | none => some { r with target := some text }
  | .level text =>
    if (text ++ back).isEmpty then some r
    else (LogLevel.ofText? (String.ofList (text ++ back))).map fun level => { r with level }
  | .target => some r
  | _ => none

/-- Reads a rule from pairs of a character that is seen and one that is kept. -/
def ofPairs? (r : LogRule) (part : Part) (back : List Char) :
    List (Char × Char) → Option LogRule
  | [] => r.finish part back
  | (seen, kept) :: more => do
    let (r, part) ← r.step part seen kept
    ofPairs? r part back more

/-- Reads a rule. The blanks around a text do not count where its parts begin and end, but the parts
are cut from the text with its blanks, at the places that they have without: blanks in front shift
every part. -/
def ofText? (text : String) : Option LogRule :=
  let all := text.toList
  let inner := Text.trimChars all
  ofPairs? {} .start (all.drop inner.length) (inner.zip all)

/-! ## Deciding -/

/-- Whether a rule is about events. -/
def isForEvents (r : LogRule) : Bool := r.span.isNone && r.fields.all (!·.hasValue)

/-- Whether a rule decides about an event. -/
def applies (r : LogRule) (e : LogEvent) : Bool :=
  r.isForEvents && (r.target.getD "").toList.isPrefixOf e.target.toList &&
    r.fields.all fun field => e.hasField field.name

/-- How specific a rule is: first by its target, a longer one more than a shorter one and any more
than none, then by the number of fields, then by their names. -/
def compareSpecific (a b : LogRule) : Ordering :=
  (compare (a.target.map String.utf8ByteSize) (b.target.map String.utf8ByteSize)).then <|
    (compare a.fields.length b.fields.length).then <|
      compare (a.fields.map LogField.name) (b.fields.map LogField.name)

end LogRule

end CurrencyLedger
