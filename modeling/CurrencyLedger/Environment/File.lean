import CurrencyLedger.Environment.Assignment
import CurrencyLedger.Environment.Line

/-! # Environment files

A file of assignments adds to an environment what it lacks, line by line: later lines may refer to
earlier ones. The first line that is neither blank nor an assignment ends the reading. -/

namespace CurrencyLedger.Environment

/-- The assignments of lines, up to the first line that is none. -/
def assignments : List (List Char) → List Assignment
  | [] => []
  | line :: more =>
    let text := Text.trimChars line
    if text.isEmpty || text.head? == some '#' then assignments more
    else match Assignment.ofLine? text with
      | some a => a :: assignments more
      | none => []

/-- The assignments of a file, which may start with a byte order mark. -/
def fileAssignments (file : String) : List Assignment :=
  match file.toList with
  | '\ufeff' :: text => assignments (lines text)
  | text => assignments (lines text)

/-- An environment with what a file adds; what was there before stays. -/
def addFile (env : Environment) (file : String) : Environment :=
  (fileAssignments file).foldl assign env

end CurrencyLedger.Environment
