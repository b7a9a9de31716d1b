import CurrencyLedger.Binary64.Basic

/-! # JSON values

* **`Json`** — a value as it was written: members in the order of the text, repeated names kept;
* **`canonical`** — members in ascending order of their names, of equal names the last one kept;
* **`isReadable`** — whether no part of the value is beyond what a value can hold. -/

namespace CurrencyLedger

/-- A JSON value. -/
inductive Json where
  /-- The value `null`. -/
  | null
  /-- A truth value. -/
  | bool (b : Bool)
  /-- A number without fraction and exponent that fits in 64 bits, signed or unsigned. -/
  | int (n : Int)
  /-- Any other number. -/
  | real (x : Binary64)
  /-- A text. -/
  | str (s : String)
  /-- A list. -/
  | arr (items : List Json)
  /-- Named members. -/
  | obj (members : List (String × Json))
  /-- Well-formed text without a value: a number beyond every finite one, half of a surrogate pair,
  or lists and objects nested too deeply. It may stand where it is not looked at. -/
  | unreadable
  deriving BEq, Repr, Inhabited

namespace Json

/-! ## Readable values -/

mutual

/-- Whether a value holds nothing unreadable. -/
def isReadable : Json → Bool
  | .unreadable => false
  | .arr items => areReadable items
  | .obj members => membersReadable members
  | _ => true

/-- Whether every item is readable. -/
def areReadable : List Json → Bool
  | [] => true
  | item :: items => item.isReadable && areReadable items

/-- Whether every member is readable. -/
def membersReadable : List (String × Json) → Bool
  | [] => true
  | (_, value) :: members => value.isReadable && membersReadable members

end

/-- Whether a value is an object whose members, but those of given names, hold nothing
unreadable. -/
def isReadableBut (names : List String) : Json → Bool
  | .obj members => members.all fun member => names.contains member.1 || member.2.isReadable
  | _ => false

/-! ## Canonical values -/

/-- Adds a member to ascending members, unless its name is taken. -/
def addMember (name : String) (value : Json) : List (String × Json) → List (String × Json)
  | [] => [(name, value)]
  | (other, held) :: members =>
    match compare name other with
    | .lt => (name, value) :: (other, held) :: members
    | .eq => (other, held) :: members
    | .gt => (other, held) :: addMember name value members

mutual

/-- The value with the members of every object in ascending order of their names; of members with
one name the last stands. -/
def canonical : Json → Json
  | .arr items => .arr (canonicalItems items)
  | .obj members => .obj (canonicalMembers members)
  | value => value

/-- The canonical forms of the items. -/
def canonicalItems : List Json → List Json
  | [] => []
  | item :: items => item.canonical :: canonicalItems items

/-- The members in ascending order, each name once. -/
def canonicalMembers : List (String × Json) → List (String × Json)
  | [] => []
  | (name, value) :: members => addMember name value.canonical (canonicalMembers members)

end

/-- The canonical form of a readable value. -/
def value? (j : Json) : Option Json := if j.isReadable then some j.canonical else none

/-- The first member of a name. -/
def lookup (name : String) (members : List (String × Json)) : Option Json :=
  (members.find? (·.1 == name)).map (·.2)

/-- The member of a name, if the value is an object that has one. -/
def get? (j : Json) (name : String) : Option Json :=
  match j with
  | .obj members => lookup name members
  | _ => none

end Json

end CurrencyLedger
