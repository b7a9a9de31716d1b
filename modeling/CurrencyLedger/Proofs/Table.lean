import CurrencyLedger.Table
import Mathlib.Data.List.Sort

/-! # Laws of tables

A table is known by its look-ups: rows are the answers of look-ups, and tables that answer alike
are equal.

* **`eq_of_ascending`**, **`ascending_mergeSort`** — lists in the order of their keys;
* **`isLE_of_find?`**, **`mem_upTo_iff`** — the least key that passes a test, and those up to it;
* **`lookup_eq_some_iff`**, **`mem_rows_iff`** — rows and look-ups say the same;
* **`ext_get?`** — equal look-ups make equal tables;
* **`get?_erase`**, **`get?_foldl_insert`** — what look-ups answer after rows are taken out or put
  in;
* **`get?_ofList`**, **`mem_keys_ofList`** — look-ups and keys of a table made of rows. -/

namespace CurrencyLedger.Table

variable {κ ν : Type} [Ord κ] [Std.TransOrd κ] [Std.LawfulEqOrd κ] [DecidableEq κ]

/-! ## Ascending keys -/

omit [Std.TransOrd κ] [DecidableEq κ] in
/-- A key is not below itself. -/
theorem ne_of_compare_lt {a b : κ} (less : compare a b = .lt) : a ≠ b := by
  rintro rfl
  simp at less

omit [DecidableEq κ] in
/-- Lists that ascend by their keys and have the same members are equal. -/
theorem eq_of_ascending {α : Type} (key : α → κ) {as bs : List α}
    (ascending : as.Pairwise fun a b => compare (key a) (key b) = .lt)
    (ascending' : bs.Pairwise fun a b => compare (key a) (key b) = .lt)
    (same : ∀ a, a ∈ as ↔ a ∈ bs) : as = bs := by
  have antisymm : Std.Antisymm fun a b : α => compare (key a) (key b) = .lt :=
    ⟨fun _ _ less more => absurd (Std.TransCmp.lt_trans less more) (by simp)⟩
  have irrefl : Std.Irrefl fun a b : α => compare (key a) (key b) = .lt := ⟨fun _ => by simp⟩
  exact ascending.eq_of_mem_iff ascending' same

omit [DecidableEq κ] in
/-- Sorted by their keys, members with a key each ascend. -/
theorem ascending_mergeSort {α : Type} (key : α → κ) {as : List α} (distinct : (as.map key).Nodup) :
    (as.mergeSort fun a b => (compare (key a) (key b)).isLE).Pairwise
      fun a b => compare (key a) (key b) = .lt := by
  have total (a b : α) :
      ((compare (key a) (key b)).isLE || (compare (key b) (key a)).isLE) = true := by
    cases order : compare (key a) (key b) with
    | lt => rfl
    | eq => rfl
    | gt =>
      rw [Std.OrientedCmp.lt_of_gt order]
      rfl
  have sorted := List.pairwise_mergeSort (fun _ _ _ => Std.TransCmp.isLE_trans) total as
  have perm := as.mergeSort_perm fun a b => (compare (key a) (key b)).isLE
  have apart := List.pairwise_map.1 ((perm.map key).nodup_iff.2 distinct)
  refine (sorted.and apart).imp fun {a b} ⟨le, other⟩ => ?_
  rcases Ordering.isLE_iff_eq_lt_or_eq_eq.1 le with less | same
  · exact less
  · exact absurd (Std.LawfulEqCmp.eq_of_compare same) other

omit [Std.LawfulEqOrd κ] [DecidableEq κ] in
/-- The first of ascending keys that passes a test is the least of those that do. -/
theorem isLE_of_find? {test : κ → Bool} {keys : List κ} {key other : κ}
    (ascending : keys.Pairwise fun a b => compare a b = .lt) (found : keys.find? test = some key)
    (mem : other ∈ keys) (passes : test other = true) : (compare key other).isLE = true := by
  obtain ⟨-, before, after, rfl, fail⟩ := List.find?_eq_some_iff_append.1 found
  obtain ⟨-, later, -⟩ := List.pairwise_append.1 ascending
  rcases List.mem_append.1 mem with first | last
  · have fails := fail other first
    rw [passes] at fails
    cases fails
  · rcases List.mem_cons.1 last with rfl | last
    · exact Std.ReflCmp.isLE_rfl
    · rw [(List.pairwise_cons.1 later).1 other last]
      rfl

omit [Std.LawfulEqOrd κ] [DecidableEq κ] in
/-- Of ascending keys, those as far as one of them are those that are not above it. -/
theorem mem_upTo_iff {before after : List κ} {key other : κ}
    (ascending : (before ++ key :: after).Pairwise fun a b => compare a b = .lt) :
    other ∈ before ++ [key] ↔ other ∈ before ++ key :: after ∧ (compare other key).isLE = true := by
  obtain ⟨-, later, above⟩ := List.pairwise_append.1 ascending
  rw [List.mem_append, List.mem_singleton, List.mem_append, List.mem_cons]
  constructor
  · rintro (first | rfl)
    · rw [above other first key List.mem_cons_self]
      exact ⟨Or.inl first, rfl⟩
    · exact ⟨Or.inr (Or.inl rfl), Std.ReflCmp.isLE_rfl⟩
  · rintro ⟨first | rfl | last, le⟩
    · exact Or.inl first
    · exact Or.inr rfl
    · rw [Std.OrientedCmp.gt_of_lt ((List.pairwise_cons.1 later).1 other last)] at le
      cases le

/-! ## Rows and look-ups -/

omit [Std.TransOrd κ] in
/-- Among rows with a key each, a row stands for what its key is looked up to. -/
theorem lookup_eq_some_of_mem {rows : List (κ × ν)} {key : κ} {value : ν}
    (distinct : (rows.map Prod.fst).Nodup) (mem : (key, value) ∈ rows) :
    lookup key rows = some value := by
  induction rows with
  | nil => simp at mem
  | cons row rows ih =>
    obtain ⟨new, distinct⟩ := List.nodup_cons.1 distinct
    rw [lookup_cons]
    rcases List.mem_cons.1 mem with rfl | mem
    · rw [if_pos rfl]
    · have later : key ∈ rows.map Prod.fst := List.mem_map_of_mem (f := Prod.fst) mem
      have other : key ≠ row.1 := fun here => new (here ▸ later)
      rw [if_neg other]
      exact ih distinct mem

omit [Std.TransOrd κ] in
/-- What a key is looked up to is a row. -/
theorem mem_of_lookup_eq_some {rows : List (κ × ν)} {key : κ} {value : ν}
    (h : lookup key rows = some value) : (key, value) ∈ rows := by
  induction rows with
  | nil => simp [lookup] at h
  | cons row rows ih =>
    rw [lookup_cons] at h
    split at h
    case isTrue same =>
      obtain rfl := Option.some.inj h
      rw [same]
      exact List.mem_cons_self
    case isFalse => exact List.mem_cons_of_mem _ (ih h)

omit [Std.TransOrd κ] in
/-- Among rows with a key each, the rows are the answers of look-ups. -/
theorem lookup_eq_some_iff {rows : List (κ × ν)} (distinct : (rows.map Prod.fst).Nodup) {key : κ}
    {value : ν} : lookup key rows = some value ↔ (key, value) ∈ rows :=
  ⟨mem_of_lookup_eq_some, lookup_eq_some_of_mem distinct⟩

omit [Std.TransOrd κ] in
/-- So their order is of no matter to a look-up. -/
theorem lookup_perm {rows rows' : List (κ × ν)} (distinct : (rows.map Prod.fst).Nodup)
    (perm : rows'.Perm rows) (key : κ) : lookup key rows' = lookup key rows := by
  have distinct' : (rows'.map Prod.fst).Nodup := (perm.map Prod.fst).nodup_iff.2 distinct
  refine Option.ext fun value => ?_
  rw [lookup_eq_some_iff distinct', lookup_eq_some_iff distinct, perm.mem_iff]

omit [Std.TransOrd κ] [DecidableEq κ] in
/-- No key of a table has two rows. -/
theorem nodup_keys (t : Table κ ν) : t.keys.Nodup :=
  List.pairwise_map.2 (t.ascending.imp ne_of_compare_lt)

omit [Std.TransOrd κ] in
/-- The rows of a table are the answers of its look-ups. -/
theorem mem_rows_iff {t : Table κ ν} {key : κ} {value : ν} :
    (key, value) ∈ t.rows ↔ t.get? key = some value :=
  (lookup_eq_some_iff t.nodup_keys).symm

omit [Std.TransOrd κ] in
/-- A key of a table is one that is looked up to something. -/
theorem mem_keys_iff {t : Table κ ν} {key : κ} : key ∈ t.keys ↔ (t.get? key).isSome = true := by
  rw [keys, List.mem_map, Option.isSome_iff_exists]
  constructor
  · rintro ⟨row, mem, rfl⟩
    exact ⟨row.2, mem_rows_iff.1 mem⟩
  · rintro ⟨value, h⟩
    exact ⟨(key, value), mem_rows_iff.2 h, rfl⟩

/-- Tables that answer every look-up alike are equal. -/
theorem ext_get? {s t : Table κ ν} (h : ∀ key, s.get? key = t.get? key) : s = t := by
  have same : s.rows = t.rows := by
    refine eq_of_ascending Prod.fst s.ascending t.ascending fun row => ?_
    rw [← Prod.mk.eta (p := row), mem_rows_iff, mem_rows_iff, h]
  cases s
  cases t
  simpa using same

/-! ## Taking rows out and putting rows in -/

omit [Std.TransOrd κ] in
/-- Among rows without those of a key, that key has no value and every other key what it had. -/
theorem lookup_filter (key other : κ) (rows : List (κ × ν)) :
    lookup other (rows.filter fun row => compare key row.1 != .eq) =
      if other = key then none else lookup other rows := by
  induction rows with
  | nil => simp [lookup]
  | cons row rows ih =>
    by_cases same : key = row.1
    · subst same
      rw [List.filter_cons_of_neg (by simp), ih, lookup_cons]
      split <;> rfl
    · have different : (compare key row.1 != .eq) = true := by
        simpa using fun h : key = row.1 => same h
      rw [List.filter_cons_of_pos (p := fun row : κ × ν => compare key row.1 != .eq) different,
        lookup_cons, lookup_cons, ih]
      by_cases here : other = row.1
      · rw [if_pos here, if_pos here, if_neg (fun h => same (h.symm.trans here))]
      · rw [if_neg here, if_neg here]

omit [Std.TransOrd κ] in
/-- After its row is taken out a key has no value and every other key what it had. -/
theorem get?_erase (t : Table κ ν) (key other : κ) :
    (t.erase key).get? other = if other = key then none else t.get? other :=
  lookup_filter key other t.rows

omit [Std.TransOrd κ] in
@[simp] theorem get?_erase_self (t : Table κ ν) (key : κ) : (t.erase key).get? key = none := by
  rw [get?_erase, if_pos rfl]

omit [Std.TransOrd κ] in
theorem get?_erase_of_ne (t : Table κ ν) {key other : κ} (h : other ≠ key) :
    (t.erase key).get? other = t.get? other := by
  rw [get?_erase, if_neg h]

/-- After rows with a key each are put into a table one by one, the keys of the rows have the values
of the rows and every other key what it had. -/
theorem get?_foldl_insertRows (rows : List (κ × ν)) (t : Table κ ν) (key : κ)
    (distinct : (rows.map Prod.fst).Nodup) :
    (rows.foldl (fun t row => t.insert row.1 row.2) t).get? key =
      (lookup key rows).or (t.get? key) := by
  induction rows generalizing t with
  | nil => simp [lookup]
  | cons row rows ih =>
    obtain ⟨new, distinct⟩ := List.nodup_cons.1 distinct
    rw [List.foldl_cons, ih _ distinct, lookup_cons, get?_insert]
    by_cases here : key = row.1
    · -- The rows that follow have other keys, so none of them replaces this one.
      have absent : lookup key rows = none := by
        rw [Option.eq_none_iff_forall_not_mem]
        intro value h
        have later : key ∈ rows.map Prod.fst :=
          List.mem_map_of_mem (f := Prod.fst) (mem_of_lookup_eq_some h)
        exact new (here ▸ later)
      rw [if_pos here, if_pos here, absent, Option.none_or, Option.some_or]
    · rw [if_neg here, if_neg here]

/-- After the rows of a table are put into another, look-ups answer from the first if they can. -/
theorem get?_foldl_insert (rows t : Table κ ν) (key : κ) :
    (rows.rows.foldl (fun t row => t.insert row.1 row.2) t).get? key =
      (rows.get? key).or (t.get? key) :=
  get?_foldl_insertRows rows.rows t key rows.nodup_keys

/-- A table made of rows with a key each answers as its rows do. -/
theorem get?_ofList {rows : List (κ × ν)} (distinct : (rows.map Prod.fst).Nodup) (key : κ) :
    (ofList rows).get? key = lookup key rows := by
  rw [ofList, get?_foldl_insertRows rows empty key distinct, get?_empty, Option.or_none]

/-- A table is made of its own rows. -/
@[simp] theorem ofList_rows (t : Table κ ν) : ofList t.rows = t := by
  refine ext_get? fun key => ?_
  rw [get?_ofList t.nodup_keys]
  rfl

/-- Whatever is put into a table one by one, its keys are the old ones and those of the rows. -/
theorem mem_keys_foldl_insert (rows : List (κ × ν)) (t : Table κ ν) (key : κ) :
    key ∈ (rows.foldl (fun t row => t.insert row.1 row.2) t).keys ↔
      key ∈ t.keys ∨ key ∈ rows.map Prod.fst := by
  induction rows generalizing t with
  | nil => simp
  | cons row rows ih =>
    rw [List.foldl_cons, ih, mem_keys_iff, get?_insert, List.map_cons, List.mem_cons, mem_keys_iff]
    by_cases here : key = row.1
    · simp [here]
    · simp [here]

/-- The keys of a table made of rows are those of the rows. -/
theorem mem_keys_ofList (rows : List (κ × ν)) (key : κ) :
    key ∈ (ofList rows).keys ↔ key ∈ rows.map Prod.fst := by
  rw [ofList, mem_keys_foldl_insert]
  simp [keys, empty]

end CurrencyLedger.Table
