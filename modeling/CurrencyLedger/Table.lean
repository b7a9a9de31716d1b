/-! # Tables

Rows of a key and a value in strictly ascending order of their keys, so that a table is determined
by what its look-ups answer.

* **`get?`**, **`insert`**, **`erase`** — one row;
* **`ofList`** — of rows with one key the last stands;
* **`get?_insert`** — what a look-up answers after an insertion. -/

namespace CurrencyLedger

/-- Rows in strictly ascending order of their keys. -/
structure Table (κ ν : Type) [Ord κ] where
  /-- The rows. -/
  rows : List (κ × ν)
  ascending : rows.Pairwise fun a b => compare a.1 b.1 = .lt

namespace Table

variable {κ ν : Type} [Ord κ]

/-- The table without rows. -/
def empty : Table κ ν := ⟨[], .nil⟩

instance : Inhabited (Table κ ν) := ⟨empty⟩

instance [BEq κ] [BEq ν] : BEq (Table κ ν) := ⟨fun s t => s.rows == t.rows⟩

instance [DecidableEq κ] [DecidableEq ν] : DecidableEq (Table κ ν) := fun s t =>
  decidable_of_iff (s.rows = t.rows) (by cases s; cases t; simp)

/-- The value of a key among rows. -/
def lookup (key : κ) (rows : List (κ × ν)) : Option ν :=
  (rows.find? fun row => compare key row.1 == .eq).map (·.2)

/-- The value of a key. -/
def get? (t : Table κ ν) (key : κ) : Option ν := lookup key t.rows

/-- Whether a key has a row. -/
def contains (t : Table κ ν) (key : κ) : Bool := (t.get? key).isSome

/-- The keys in ascending order. -/
def keys (t : Table κ ν) : List κ := t.rows.map (·.1)

/-- How many rows there are. -/
def size (t : Table κ ν) : Nat := t.rows.length

/-- Whether there are no rows. -/
def isEmpty (t : Table κ ν) : Bool := t.rows.isEmpty

/-- Puts a row among ascending rows, in the place of the row with its key if there is one. -/
def insertRow (key : κ) (value : ν) : List (κ × ν) → List (κ × ν)
  | [] => [(key, value)]
  | row :: rows =>
    match compare key row.1 with
    | .lt => (key, value) :: row :: rows
    | .eq => (key, value) :: rows
    | .gt => row :: insertRow key value rows

/-- Every row after an insertion is the new one or an old one. -/
theorem mem_insertRow {key : κ} {value : ν} {rows : List (κ × ν)} {row : κ × ν}
    (h : row ∈ insertRow key value rows) : row = (key, value) ∨ row ∈ rows := by
  induction rows with
  | nil => simpa [insertRow] using h
  | cons first rows ih =>
    simp only [insertRow] at h
    split at h
    · simpa using h
    · rcases List.mem_cons.1 h with h | h
      · exact Or.inl h
      · exact Or.inr (List.mem_cons_of_mem _ h)
    · rcases List.mem_cons.1 h with h | h
      · exact Or.inr (h ▸ List.mem_cons_self)
      · exact (ih h).imp id (List.mem_cons_of_mem _)

variable [Std.TransOrd κ] [Std.LawfulEqOrd κ]

/-- An insertion keeps the order. -/
theorem pairwise_insertRow (key : κ) (value : ν) {rows : List (κ × ν)}
    (h : rows.Pairwise fun a b => compare a.1 b.1 = .lt) :
    (insertRow key value rows).Pairwise fun a b => compare a.1 b.1 = .lt := by
  induction rows with
  | nil => simp [insertRow]
  | cons first rows ih =>
    obtain ⟨above, tail⟩ := List.pairwise_cons.1 h
    simp only [insertRow]
    split
    case h_1 less =>
      refine List.pairwise_cons.2 ⟨fun row mem => ?_, h⟩
      rcases List.mem_cons.1 mem with rfl | mem
      · exact less
      · exact Std.TransCmp.lt_trans less (above row mem)
    case h_2 same =>
      have : key = first.1 := Std.LawfulEqCmp.eq_of_compare same
      refine List.pairwise_cons.2 ⟨fun row mem => ?_, tail⟩
      simpa [this] using above row mem
    case h_3 more =>
      refine List.pairwise_cons.2 ⟨fun row mem => ?_, ih tail⟩
      rcases mem_insertRow mem with rfl | mem
      · exact Std.OrientedCmp.lt_of_gt more
      · exact above row mem

/-- Puts a row into a table, in the place of the row with its key if there is one. -/
def insert (t : Table κ ν) (key : κ) (value : ν) : Table κ ν :=
  ⟨insertRow key value t.rows, pairwise_insertRow key value t.ascending⟩

omit [Std.TransOrd κ] [Std.LawfulEqOrd κ] in
/-- The table without the row of a key. -/
def erase (t : Table κ ν) (key : κ) : Table κ ν :=
  ⟨t.rows.filter fun row => compare key row.1 != .eq, t.ascending.filter _⟩

/-- The table of rows in any order; of rows with one key the last stands. -/
def ofList (rows : List (κ × ν)) : Table κ ν :=
  rows.foldl (fun t row => t.insert row.1 row.2) empty

/-! ## What look-ups answer -/

omit [Std.TransOrd κ] [Std.LawfulEqOrd κ] in
/-- The table without rows answers nothing. -/
@[simp] theorem get?_empty (key : κ) : (empty : Table κ ν).get? key = none := rfl

variable [DecidableEq κ]

omit [Std.TransOrd κ] in
/-- The first row answers for its own key, the other rows for every other key. -/
theorem lookup_cons (key : κ) (row : κ × ν) (rows : List (κ × ν)) :
    lookup key (row :: rows) = if key = row.1 then some row.2 else lookup key rows := by
  by_cases same : key = row.1
  · subst same; simp [lookup]
  · have : compare key row.1 ≠ .eq := fun h => same (Std.LawfulEqCmp.eq_of_compare h)
    simp [lookup, same, this]

omit [Std.TransOrd κ] in
/-- After an insertion among rows the key has the new value and every other key what it had. -/
theorem lookup_insertRow (key other : κ) (value : ν) (rows : List (κ × ν)) :
    lookup other (insertRow key value rows) =
      if other = key then some value else lookup other rows := by
  induction rows with
  | nil => simp only [insertRow, lookup_cons]
  | cons row rows ih =>
    simp only [insertRow]
    split
    case h_1 => simp only [lookup_cons]
    case h_2 hit =>
      have hit : key = row.1 := Std.LawfulEqCmp.eq_of_compare hit
      by_cases same : other = key
      · simp [lookup_cons, same]
      · simp [lookup_cons, same, hit ▸ same]
    case h_3 more =>
      rw [lookup_cons, ih, lookup_cons]
      by_cases here : other = row.1
      · have : other ≠ key := by
          rintro rfl
          simp [here] at more
        have : row.1 ≠ key := here ▸ this
        simp [here, this]
      · simp [here]

/-- After an insertion the key has the new value and every other key what it had. -/
theorem get?_insert (t : Table κ ν) (key other : κ) (value : ν) :
    (t.insert key value).get? other = if other = key then some value else t.get? other :=
  lookup_insertRow key other value t.rows

@[simp] theorem get?_insert_self (t : Table κ ν) (key : κ) (value : ν) :
    (t.insert key value).get? key = some value := by
  simp [get?_insert]

theorem get?_insert_of_ne (t : Table κ ν) {key other : κ} (value : ν) (h : other ≠ key) :
    (t.insert key value).get? other = t.get? other := by
  simp [get?_insert, h]

end Table

end CurrencyLedger
