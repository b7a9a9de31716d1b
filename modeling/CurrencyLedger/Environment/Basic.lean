/-! # Environments

Names with texts, as a program is given them. A name that is there already is not given another
text. -/

namespace CurrencyLedger

/-- Names with their texts; of one name the first counts. -/
abbrev Environment := List (String × String)

namespace Environment

/-- The text of a name. -/
def get? (env : Environment) (name : String) : Option String :=
  (env.find? (·.1 == name)).map (·.2)

/-- An environment with one more name, unless it has that name already. -/
def add (env : Environment) (name text : String) : Environment := env ++ [(name, text)]

/-- The added name has its text unless it had one before; every other name keeps what it had. -/
theorem get?_add (env : Environment) (name other text : String) :
    (env.add name text).get? other =
      (env.get? other).or (if name = other then some text else none) := by
  simp only [get?, add, List.find?_append, Option.map_or]
  by_cases h : name = other <;> simp [h]

end Environment

end CurrencyLedger
