import CurrencyLedger.Log.Rule

/-! # Log filters

Which events are logged. A filter is a list of rules with commas between them. Of the rules that
apply to an event the most specific one decides, and of two equally specific ones the later. -/

namespace CurrencyLedger

/-- Which events are logged. -/
structure LogFilter where
  /-- The rules in the order of the text. -/
  rules : List LogRule
  deriving DecidableEq, Repr

namespace LogFilter

/-- The parts of a text between commas. -/
def parts (text : String) : List String :=
  (text.toList.foldr (fun c parts =>
    match parts with
    | [] => [[c]]
    | part :: more => if c = ',' then [] :: part :: more else (c :: part) :: more) [[]]).map
      String.ofList

/-- Reads a filter; empty parts count for nothing. -/
def ofText? (text : String) : Option LogFilter :=
  (((parts text).filter (!·.isEmpty)).mapM LogRule.ofText?).map LogFilter.mk

/-- The filter that holds unless another is given. -/
def default : LogFilter := ⟨[{ target := some "wallet_ledger", level := .debug }]⟩

/-- The filter of a text that may be missing; a text that is none counts as missing. -/
def ofOption (text : Option String) : LogFilter := (text.bind ofText?).getD default

/-- The rule that decides about an event. -/
def rule? (f : LogFilter) (e : LogEvent) : Option LogRule :=
  (f.rules.filter (·.applies e)).foldl
    (fun best rule =>
      match best with
      | none => some rule
      | some held => if held.compareSpecific rule == .gt then some held else some rule)
    none

/-- Whether an event is logged. -/
def allows (f : LogFilter) (e : LogEvent) : Bool :=
  match f.rule? e with
  | some rule => e.level.rank ≤ rule.level.rank
  | none => false

end LogFilter

end CurrencyLedger
