import CurrencyLedger.Binary64.Shortest
import CurrencyLedger.Json.Basic
import CurrencyLedger.Text.Quoted

/-! # Writing JSON text

Compact text, members in the order of the value. In a string a quote, a backslash and the controls
below the space are escaped and every other character stands for itself. A real number always shows
a point or an exponent: the point for a leading digit between the fifth place after it and the
sixteenth place before it, the exponent, always with a sign, beyond. Of two equally near shortest
texts the one with an even last digit is written. -/

namespace CurrencyLedger.Json

/-- How a string shows one character. -/
def escapeChar (c : Char) : List Char :=
  if c == '"' then ['\\', '"']
  else if c == '\\' then ['\\', '\\']
  else if c == '\x08' then ['\\', 'b']
  else if c == '\x0c' then ['\\', 'f']
  else if c == '\n' then ['\\', 'n']
  else if c == '\r' then ['\\', 'r']
  else if c == '\t' then ['\\', 't']
  else if c.toNat < 0x20 then
    ['\\', 'u', '0', '0', Text.hexDigit (c.toNat / 16), Text.hexDigit (c.toNat % 16)]
  else [c]

/-- The text of a string. -/
def stringChars (s : String) : List Char := '"' :: (s.toList.flatMap escapeChar ++ ['"'])

/-- The text of a real number. -/
def realChars (x : Binary64) : List Char :=
  let sign := if x.negative then ['-'] else []
  if x.isZero then sign ++ ['0', '.', '0']
  else
    let form := x.shortest .even
    let ds := Numeral.digits form.digits
    let count : Int := ds.length
    sign ++
      if 0 < form.point ∧ form.point ≤ 16 then
        if count ≤ form.point then
          ds ++ List.replicate (form.point - count).toNat '0' ++ ['.', '0']
        else ds.take form.point.toNat ++ '.' :: ds.drop form.point.toNat
      else if -5 < form.point ∧ form.point ≤ 0 then
        ['0', '.'] ++ List.replicate (-form.point).toNat '0' ++ ds
      else
        let tail := ds.drop 1
        ds.take 1 ++ (if tail.isEmpty then [] else '.' :: tail) ++
          'e' :: (if 0 < form.point then ['+'] else []) ++ Numeral.ofInt (form.point - 1)

mutual

/-- The text of a value. -/
def chars : Json → List Char
  | .null => ['n', 'u', 'l', 'l']
  | .bool true => ['t', 'r', 'u', 'e']
  | .bool false => ['f', 'a', 'l', 's', 'e']
  | .int n => Numeral.ofInt n
  | .real x => realChars x
  | .str s => stringChars s
  | .arr items => '[' :: (itemsChars items ++ [']'])
  | .obj members => '\x7b' :: (membersChars members ++ ['\x7d'])
  | .unreadable => []

/-- The texts of items, with commas between them. -/
def itemsChars : List Json → List Char
  | [] => []
  | item :: items => item.chars ++ moreItemsChars items

/-- The texts of further items, each after a comma. -/
def moreItemsChars : List Json → List Char
  | [] => []
  | item :: items => ',' :: (item.chars ++ moreItemsChars items)

/-- The texts of members, with commas between them. -/
def membersChars : List (String × Json) → List Char
  | [] => []
  | (name, item) :: members =>
    stringChars name ++ ':' :: (item.chars ++ moreMembersChars members)

/-- The texts of further members, each after a comma. -/
def moreMembersChars : List (String × Json) → List Char
  | [] => []
  | (name, item) :: members =>
    ',' :: (stringChars name ++ ':' :: (item.chars ++ moreMembersChars members))

end

/-- The compact text of a value. -/
def text (j : Json) : String := String.ofList j.chars

end CurrencyLedger.Json
