import CurrencyLedger.Json.Basic
import CurrencyLedger.Text.Numeral

/-! # Reading JSON text

`Json.parse?` reads one value and nothing after it but blanks. Strings are read in two passes: into
`Piece`s, then surrogate pairs are joined. A number with a fraction or an exponent, or one beyond 64
bits, is rounded twice: its first digits that fit in 64 bits to a floating-point number, and that
number times or over a power of ten to another. Lists and objects nest up to 127 deep. -/

namespace CurrencyLedger.Json

/-- Whether a character may stand between the parts of a text. -/
def isSpace (c : Char) : Bool := c == ' ' || c == '\n' || c == '\t' || c == '\r'

/-- The text after its leading blanks. -/
def skipSpace (s : List Char) : List Char := s.dropWhile isSpace

/-! ## Strings -/

/-- What one character or escape of a string stands for. -/
inductive Piece where
  /-- A character. -/
  | char (c : Char)
  /-- A unit of sixteen bits, written in hexadecimal. -/
  | unit (n : Nat)
  deriving DecidableEq, Repr

/-- The value of a hexadecimal digit of either case. -/
def hexValue? (c : Char) : Option Nat :=
  if c.isDigit then some (c.toNat - 48)
  else if 'a' ≤ c ∧ c ≤ 'f' then some (c.toNat - 87)
  else if 'A' ≤ c ∧ c ≤ 'F' then some (c.toNat - 55)
  else none

/-- The unit that four hexadecimal digits write. -/
def hexUnit? (a b c d : Char) : Option Nat := do
  let a ← hexValue? a
  let b ← hexValue? b
  let c ← hexValue? c
  let d ← hexValue? d
  pure (((a * 16 + b) * 16 + c) * 16 + d)

/-- The character that a one-letter escape stands for. -/
def escaped? (c : Char) : Option Char :=
  if c == '"' || c == '\\' || c == '/' then some c
  else if c == 'b' then some '\x08'
  else if c == 'f' then some '\x0c'
  else if c == 'n' then some '\n'
  else if c == 'r' then some '\r'
  else if c == 't' then some '\t'
  else none

/-- Reads the pieces of a string up to its closing quote. -/
def pieces? : List Char → Option (List Piece × List Char)
  | [] => none
  | '"' :: rest => some ([], rest)
  | '\\' :: 'u' :: a :: b :: c :: d :: rest => do
    let unit ← hexUnit? a b c d
    let (pieces, rest) ← pieces? rest
    pure (.unit unit :: pieces, rest)
  | '\\' :: c :: rest => do
    let c ← escaped? c
    let (pieces, rest) ← pieces? rest
    pure (.char c :: pieces, rest)
  | c :: rest =>
    if c == '\\' || c.toNat < 0x20 then none
    else do
      let (pieces, rest) ← pieces? rest
      pure (.char c :: pieces, rest)

/-- Whether a unit is the first half of a surrogate pair. -/
def isHighHalf (n : Nat) : Bool := 0xD800 ≤ n && n < 0xDC00

/-- Whether a unit is the second half of a surrogate pair. -/
def isLowHalf (n : Nat) : Bool := 0xDC00 ≤ n && n < 0xE000

/-- The characters of pieces, with surrogate pairs joined; `none` if half of a pair stands alone. -/
def joinPieces? : List Piece → Option (List Char)
  | [] => some []
  | .char c :: rest => (joinPieces? rest).map (c :: ·)
  | .unit high :: .unit low :: rest =>
    if isHighHalf high then
      if isLowHalf low then
        (joinPieces? rest).map
          (Char.ofNat (0x10000 + (high - 0xD800) * 0x400 + (low - 0xDC00)) :: ·)
      else none
    else if isLowHalf high then none
    else (joinPieces? (.unit low :: rest)).map (Char.ofNat high :: ·)
  | .unit n :: rest =>
    if isHighHalf n || isLowHalf n then none
    else (joinPieces? rest).map (Char.ofNat n :: ·)

/-- Reads a string after its opening quote; the inner `none` is a string with half of a surrogate
pair. -/
def string? (s : List Char) : Option (Option String × List Char) := do
  let (pieces, rest) ← pieces? s
  pure ((joinPieces? pieces).map String.ofList, rest)

/-! ## Numbers -/

/-- The digits in front of a text, and the rest. -/
def takeDigits (s : List Char) : List Char × List Char :=
  (s.takeWhile Char.isDigit, s.dropWhile Char.isDigit)

/-- A number as it is written. -/
structure Lexeme where
  /-- Whether a minus sign stands in front. -/
  negative : Bool
  /-- The digits before the point. -/
  whole : List Char
  /-- The digits after the point; none without a point. -/
  part : List Char
  /-- The power of ten, if one is written. -/
  power : Option Int
  deriving DecidableEq, Repr

/-- Reads the fraction of a number, which has at least one digit if there is a point. -/
def fraction? : List Char → Option (List Char × List Char)
  | '.' :: rest =>
    let (digits, rest) := takeDigits rest
    if digits.isEmpty then none else some (digits, rest)
  | rest => some ([], rest)

/-- The sign of a power of ten, and what follows it. -/
def takePowerSign : List Char → Bool × List Char
  | '+' :: rest => (false, rest)
  | '-' :: rest => (true, rest)
  | rest => (false, rest)

/-- Reads the power of ten of a number. -/
def power? : List Char → Option (Option Int × List Char)
  | [] => some (none, [])
  | c :: rest =>
    if c == 'e' || c == 'E' then
      let (negative, rest) := takePowerSign rest
      let (digits, rest) := takeDigits rest
      if digits.isEmpty then none
      else
        let n : Int := Numeral.value digits
        some (some (if negative then -n else n), rest)
    else some (none, c :: rest)

/-- Reads a number: no zero stands before another digit. -/
def lexeme? (s : List Char) : Option (Lexeme × List Char) := do
  let (negative, rest) := match s with
    | '-' :: rest => (true, rest)
    | rest => (false, rest)
  let (whole, rest) := takeDigits rest
  if whole.isEmpty || (whole.head? == some '0' && whole.length != 1) then none
  else
    let (part, rest) ← fraction? rest
    let (power, rest) ← power? rest
    pure (⟨negative, whole, part, power⟩, rest)

/-- Adds digits to a number as long as it stays below `2 ^ 64`; the digits left over come second. -/
def gather (n : Nat) : List Char → Nat × List Char
  | [] => (n, [])
  | c :: rest =>
    let next := 10 * n + Numeral.digitValue c
    if next < Numeral.bound64 then gather next rest else (n, c :: rest)

/-- A power of ten as a floating-point number. -/
def tenTo (k : Nat) : Option Binary64 := Binary64.ofRatio? (Nat.pow 10 k) 1

/-- A number over a power of ten, in steps of `10 ^ 308`. -/
def lower? (steps : Nat) (x : Binary64) (k : Nat) : Option Binary64 :=
  if k ≤ 308 then do x.div? (← tenTo k)
  else if x.isZero then some x
  else match steps with
    | 0 => none
    | steps + 1 => do
      let y ← x.div? (← tenTo 308)
      lower? steps y (k - 308)

/-- A number of at most 64 bits times a power of ten, both rounded to floating-point numbers first;
`none` if the product is not finite. -/
def scaled? (significand : Nat) (power : Int) : Option Binary64 := do
  let x ← Binary64.ofRatio? significand 1
  if power < 0 then lower? ((-power).toNat / 308 + 1) x (-power).toNat
  else if power ≤ 308 then x.mul? (← tenTo power.toNat)
  else if x.isZero then some x
  else none

/-- The floating-point number of a lexeme. -/
def Lexeme.real? (l : Lexeme) : Option Binary64 := do
  let (wholeDigits, unused) := gather 0 l.whole
  let (significand, ignored) := gather wholeDigits l.part
  let places : Int := (unused.length : Int) - (l.part.length - ignored.length : Int)
  let x ← scaled? significand (places + l.power.getD 0)
  pure (x.withSign l.negative)

/-- The integer of a lexeme that is written as one and fits in 64 bits, with a sign if it is
negative. A minus sign before zero is no integer. -/
def Lexeme.int? (l : Lexeme) : Option Int :=
  let n := Numeral.value l.whole
  if !l.part.isEmpty || l.power.isSome then none
  else if l.negative then if n ≠ 0 ∧ 2 * n ≤ Numeral.bound64 then some (-(n : Int)) else none
  else if n < Numeral.bound64 then some n
  else none

/-- The value of a lexeme: an integer, or else a floating-point number. -/
def Lexeme.toJson (l : Lexeme) : Json :=
  match l.int? with
  | some n => .int n
  | none =>
    match l.real? with
    | some x => .real x
    | none => .unreadable

/-! ## Values -/

/-- A list or an object at a depth, if it is not nested too deeply. -/
def atDepth (depth : Nat) (j : Json) : Json := if depth < 127 then j else .unreadable

/-- An object, unless one of its names holds half of a surrogate pair. -/
def ofMembers (members : List (Option String × Json)) : Json :=
  match members.mapM (fun (name, value) => name.map (·, value)) with
  | some members => .obj members
  | none => .unreadable

mutual

/-- Reads a value. The first argument bounds the number of values and separators; the second counts
the lists and objects around the value. -/
def value : Nat → Nat → List Char → Option (Json × List Char)
  | 0, _, _ => none
  | fuel + 1, depth, s =>
    match skipSpace s with
    | 'n' :: 'u' :: 'l' :: 'l' :: rest => some (.null, rest)
    | 't' :: 'r' :: 'u' :: 'e' :: rest => some (.bool true, rest)
    | 'f' :: 'a' :: 'l' :: 's' :: 'e' :: rest => some (.bool false, rest)
    | '"' :: rest => do
      let (text, rest) ← string? rest
      pure (match text with | some text => .str text | none => .unreadable, rest)
    | '[' :: rest =>
      match skipSpace rest with
      | ']' :: rest => some (atDepth depth (.arr []), rest)
      | rest => do
        let (items, rest) ← items fuel (depth + 1) rest
        pure (atDepth depth (.arr items), rest)
    | '\x7b' :: rest =>
      match skipSpace rest with
      | '\x7d' :: rest => some (atDepth depth (.obj []), rest)
      | rest => do
        let (members, rest) ← members fuel (depth + 1) rest
        pure (atDepth depth (ofMembers members), rest)
    | rest => do
      let (lexeme, rest) ← lexeme? rest
      pure (lexeme.toJson, rest)

/-- Reads one or more items and the bracket after them. -/
def items : Nat → Nat → List Char → Option (List Json × List Char)
  | 0, _, _ => none
  | fuel + 1, depth, s => do
    let (item, rest) ← value fuel depth s
    match skipSpace rest with
    | ',' :: rest =>
      let (rest, left) ← items fuel depth rest
      pure (item :: rest, left)
    | ']' :: rest => pure ([item], rest)
    | _ => none

/-- Reads one or more members and the brace after them. -/
def members : Nat → Nat → List Char → Option (List (Option String × Json) × List Char)
  | 0, _, _ => none
  | fuel + 1, depth, s =>
    match skipSpace s with
    | '"' :: rest => do
      let (name, rest) ← string? rest
      match skipSpace rest with
      | ':' :: rest =>
        let (item, rest) ← value fuel depth rest
        match skipSpace rest with
        | ',' :: rest =>
          let (rest, left) ← members fuel depth rest
          pure ((name, item) :: rest, left)
        | '\x7d' :: rest => pure ([(name, item)], rest)
        | _ => none
      | _ => none
    | _ => none

end

/-- Reads a text that holds one value. -/
def parseChars? (s : List Char) : Option Json := do
  let (j, rest) ← value (2 * s.length + 2) 0 s
  if (skipSpace rest).isEmpty then pure j else none

/-- Reads a text that holds one value. -/
def parse? (s : String) : Option Json := parseChars? s.toList

end CurrencyLedger.Json
