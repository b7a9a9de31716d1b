import CurrencyLedger.Proofs.Codec.Canonical
import CurrencyLedger.Proofs.Codec.JsonText

/-! # How deep JSON values nest

Whoever reads a text goes 127 levels deep and no further, so what was read can be read again
wherever it stands no deeper than it stood.

* **`Json.nesting`** — on how many levels lists and objects stand in each other;
* **`Json.isExact_of_nesting_le`** — with its numbers, the nesting of a value decides whether it can
  be read back;
* **`Json.nesting_canonical_le`** — the canonical form nests no deeper;
* **`Json.nesting_of_parse?`** — what is read from a text nests at most 127 deep;
* **`Json.nesting_lt_of_fields?`** — a field nests less deep than its record. -/

namespace CurrencyLedger.Json

variable {j field : Json} {held : List (String × Json)} {names : List String}
  {fields : List (Option Json)} {depth limit : Nat}

/-- What is read from a list is read from one of its items. -/
theorem exists_of_mem_mapM {α β : Type} {read : α → Option β} {as : List α} {bs : List β} {b : β}
    (all : as.mapM read = some bs) (mem : b ∈ bs) : ∃ a ∈ as, read a = some b := by
  induction as generalizing bs with
  | nil =>
    cases all
    cases mem
  | cons a as ih =>
    simp only [List.mapM_cons, Option.bind_eq_bind, Option.bind_eq_some_iff, Option.pure_def,
      Option.some.injEq] at all
    obtain ⟨first, found, others, rest, rfl⟩ := all
    rcases List.mem_cons.1 mem with rfl | mem
    · exact ⟨a, List.mem_cons_self, found⟩
    · obtain ⟨a', within, found'⟩ := ih rest mem
      exact ⟨a', List.mem_cons_of_mem _ within, found'⟩

mutual

/-- On how many levels lists and objects stand in each other. -/
def nesting : Json → Nat
  | .arr items => itemsNesting items + 1
  | .obj members => membersNesting members + 1
  | _ => 0

/-- How deep the deepest item nests. -/
def itemsNesting : List Json → Nat
  | [] => 0
  | item :: items => max item.nesting (itemsNesting items)

/-- How deep the deepest member nests. -/
def membersNesting : List (String × Json) → Nat
  | [] => 0
  | (_, item) :: members => max item.nesting (membersNesting members)

end

/-- Items nest within a limit if each does. -/
theorem itemsNesting_le_iff {items : List Json} :
    itemsNesting items ≤ limit ↔ ∀ item ∈ items, item.nesting ≤ limit := by
  induction items with
  | nil => simp [itemsNesting]
  | cons item items ih => rw [itemsNesting, Nat.max_le, ih, List.forall_mem_cons]

/-- Members nest within a limit if the value of each does. -/
theorem membersNesting_le_iff :
    membersNesting held ≤ limit ↔ ∀ member ∈ held, member.2.nesting ≤ limit := by
  induction held with
  | nil => simp [membersNesting]
  | cons member held ih => rw [membersNesting, Nat.max_le, ih, List.forall_mem_cons]

/-! ## Values that can be read back -/

mutual

/-- A value that can be read back where it has room on some levels can be where it has room on as
many as it takes. -/
theorem isExact_of_nesting_le : ∀ (j : Json) {room room' : Nat}, isExact room j = true →
    j.nesting ≤ room' → isExact room' j = true
  | .null, _, _, _, _ | .bool _, _, _, _, _ | .str _, _, _, _, _ => by rw [isExact]
  | .int _, _, _, exact, _ => by
    rw [isExact] at exact ⊢
    exact exact
  | .arr items, room + 1, room' + 1, exact, le => by
    rw [isExact] at exact ⊢
    exact areExact_of_nesting_le items exact (Nat.le_of_succ_le_succ le)
  | .obj members, room + 1, room' + 1, exact, le => by
    rw [isExact] at exact ⊢
    exact membersExact_of_nesting_le members exact (Nat.le_of_succ_le_succ le)
  | .real _, _, _, exact, _ | .unreadable, _, _, exact, _ => by simp [isExact] at exact

/-- Items that can be read back somewhere can be where they have the room that they take. -/
theorem areExact_of_nesting_le : ∀ (items : List Json) {room room' : Nat},
    areExact room items = true → itemsNesting items ≤ room' → areExact room' items = true
  | [], _, _, _, _ => rfl
  | item :: items, _, _, exact, le => by
    rw [areExact, Bool.and_eq_true] at exact ⊢
    rw [itemsNesting, Nat.max_le] at le
    exact ⟨isExact_of_nesting_le item exact.1 le.1, areExact_of_nesting_le items exact.2 le.2⟩

/-- Members that can be read back somewhere can be where they have the room that they take. -/
theorem membersExact_of_nesting_le : ∀ (members : List (String × Json)) {room room' : Nat},
    membersExact room members = true → membersNesting members ≤ room' →
    membersExact room' members = true
  | [], _, _, _, _ => rfl
  | (_, item) :: members, _, _, exact, le => by
    rw [membersExact, Bool.and_eq_true] at exact ⊢
    rw [membersNesting, Nat.max_le] at le
    exact ⟨isExact_of_nesting_le item exact.1 le.1,
      membersExact_of_nesting_le members exact.2 le.2⟩

end

mutual

/-- A value that can be read back holds nothing unreadable. -/
theorem isReadable_of_isExact : ∀ (j : Json) {room : Nat}, isExact room j = true →
    j.isReadable = true
  | .null, _, _ | .bool _, _, _ | .str _, _, _ | .int _, _, _ => rfl
  | .arr items, room + 1, exact => areReadable_of_areExact items exact
  | .obj members, room + 1, exact => membersReadable_of_membersExact members exact
  | .real _, _, exact | .unreadable, _, exact => by simp [isExact] at exact

/-- Items that can be read back hold nothing unreadable. -/
theorem areReadable_of_areExact : ∀ (items : List Json) {room : Nat},
    areExact room items = true → areReadable items = true
  | [], _, _ => rfl
  | item :: items, _, exact => by
    rw [areExact, Bool.and_eq_true] at exact
    rw [areReadable, Bool.and_eq_true]
    exact ⟨isReadable_of_isExact item exact.1, areReadable_of_areExact items exact.2⟩

/-- Members that can be read back hold nothing unreadable. -/
theorem membersReadable_of_membersExact : ∀ (members : List (String × Json)) {room : Nat},
    membersExact room members = true → membersReadable members = true
  | [], _, _ => rfl
  | (_, item) :: members, _, exact => by
    rw [membersExact, Bool.and_eq_true] at exact
    rw [membersReadable, Bool.and_eq_true]
    exact ⟨isReadable_of_isExact item exact.1, membersReadable_of_membersExact members exact.2⟩

end

/-! ## The canonical form -/

mutual

/-- The canonical form of a value nests no deeper than the value. -/
theorem nesting_canonical_le : ∀ j : Json, j.canonical.nesting ≤ j.nesting
  | .null | .bool _ | .int _ | .real _ | .str _ | .unreadable => Nat.le_refl _
  | .arr items => Nat.succ_le_succ (itemsNesting_canonicalItems_le items)
  | .obj members => Nat.succ_le_succ (membersNesting_canonicalMembers_le members)

/-- Canonical items nest no deeper than the items. -/
theorem itemsNesting_canonicalItems_le : ∀ items : List Json,
    itemsNesting (canonicalItems items) ≤ itemsNesting items
  | [] => Nat.le_refl _
  | item :: items => by
    have here := nesting_canonical_le item
    have others := itemsNesting_canonicalItems_le items
    rw [canonicalItems, itemsNesting, itemsNesting]
    omega

/-- Canonical members nest no deeper than the members. -/
theorem membersNesting_canonicalMembers_le : ∀ members : List (String × Json),
    membersNesting (canonicalMembers members) ≤ membersNesting members
  | [] => Nat.le_refl _
  | (_, item) :: members => by
    have here := nesting_canonical_le item
    have others := membersNesting_le_iff.1 (membersNesting_canonicalMembers_le members)
    rw [canonicalMembers, membersNesting, membersNesting_le_iff]
    intro member mem
    rcases mem_addMember mem with rfl | mem
    · exact Nat.le_trans here (Nat.le_max_left _ _)
    · exact Nat.le_trans (others member mem) (Nat.le_max_right _ _)

end

/-- A readable value becomes one that nests no deeper. -/
theorem nesting_of_value? {j' : Json} (read : j.value? = some j') : j'.nesting ≤ j.nesting := by
  rw [value?] at read
  split at read
  · cases read
    exact nesting_canonical_le j
  · cases read

/-! ## What is read from a text -/

/-- A number nests nothing. -/
theorem nesting_toJson (l : Lexeme) : l.toJson.nesting = 0 := by
  rw [Lexeme.toJson]
  split
  · rfl
  · split <;> rfl

/-- What stands at a depth is one level deeper than its parts, or cannot be read. -/
theorem nesting_atDepth_le (parts : j.nesting ≤ 127 - (depth + 1) + 1) :
    (atDepth depth j).nesting ≤ 127 - depth := by
  rw [atDepth]
  split
  · omega
  · exact Nat.zero_le _

/-- An object is one level deeper than the values of its members. -/
theorem nesting_ofMembers_le {members : List (Option String × Json)}
    (parts : ∀ member ∈ members, member.2.nesting ≤ limit) :
    (ofMembers members).nesting ≤ limit + 1 := by
  rw [ofMembers]
  split
  case h_2 => exact Nat.zero_le _
  case h_1 named all =>
    refine Nat.succ_le_succ (membersNesting_le_iff.2 fun member mem => ?_)
    obtain ⟨source, within, same⟩ := exists_of_mem_mapM all mem
    obtain ⟨name, -, rfl⟩ := Option.map_eq_some_iff.1 same
    exact parts source within

mutual

/-- What is read at a depth nests on the levels that are left. -/
theorem nesting_of_value : ∀ {fuel depth : Nat} {s rest : List Char} {j : Json},
    value fuel depth s = some (j, rest) → j.nesting ≤ 127 - depth
  | 0, _, _, _, _, read => by cases read
  | fuel + 1, depth, s, rest, j, read => by
    rw [value] at read
    split at read
    -- Names of values, texts and numbers nest nothing.
    case h_1 | h_2 | h_3 =>
      cases read
      exact Nat.zero_le _
    case h_4 =>
      simp only [Option.bind_eq_bind, Option.bind_eq_some_iff, Option.pure_def, Option.some.injEq,
        Prod.mk.injEq] at read
      obtain ⟨⟨text, _⟩, -, rfl, -⟩ := read
      cases text <;> exact Nat.zero_le _
    -- Lists and objects are a level deeper than what they hold.
    case h_5 =>
      split at read
      · cases read
        exact nesting_atDepth_le (Nat.succ_le_succ (Nat.zero_le _))
      · simp only [Option.bind_eq_bind, Option.bind_eq_some_iff, Option.pure_def,
          Option.some.injEq, Prod.mk.injEq] at read
        obtain ⟨⟨items, _⟩, parts, rfl, -⟩ := read
        exact nesting_atDepth_le (Nat.succ_le_succ (nesting_of_items parts))
    case h_6 =>
      split at read
      · cases read
        exact nesting_atDepth_le (Nat.succ_le_succ (Nat.zero_le _))
      · simp only [Option.bind_eq_bind, Option.bind_eq_some_iff, Option.pure_def,
          Option.some.injEq, Prod.mk.injEq] at read
        obtain ⟨⟨members, _⟩, parts, rfl, -⟩ := read
        exact nesting_atDepth_le (nesting_ofMembers_le (nesting_of_members parts))
    case h_7 =>
      simp only [Option.bind_eq_bind, Option.bind_eq_some_iff, Option.pure_def, Option.some.injEq,
        Prod.mk.injEq] at read
      obtain ⟨⟨lexeme, _⟩, -, rfl, -⟩ := read
      rw [nesting_toJson]
      exact Nat.zero_le _

/-- Items that are read at a depth nest on the levels that are left. -/
theorem nesting_of_items : ∀ {fuel depth : Nat} {s rest : List Char} {items' : List Json},
    items fuel depth s = some (items', rest) → itemsNesting items' ≤ 127 - depth
  | 0, _, _, _, _, read => by cases read
  | fuel + 1, depth, s, rest, items', read => by
    rw [items] at read
    simp only [Option.bind_eq_bind, Option.bind_eq_some_iff] at read
    obtain ⟨⟨item, left⟩, first, read⟩ := read
    have here := nesting_of_value first
    split at read
    · simp only [Option.bind_eq_some_iff, Option.pure_def, Option.some.injEq,
        Prod.mk.injEq] at read
      obtain ⟨⟨others, _⟩, more, rfl, -⟩ := read
      rw [itemsNesting]
      exact Nat.max_le.2 ⟨here, nesting_of_items more⟩
    · cases read
      exact Nat.max_le.2 ⟨here, Nat.zero_le _⟩
    · cases read

/-- The values of members that are read at a depth nest on the levels that are left. -/
theorem nesting_of_members : ∀ {fuel depth : Nat} {s rest : List Char}
    {members' : List (Option String × Json)}, members fuel depth s = some (members', rest) →
    ∀ member ∈ members', member.2.nesting ≤ 127 - depth
  | 0, _, _, _, _, read => by cases read
  | fuel + 1, depth, s, rest, members', read => by
    rw [Json.members] at read
    split at read
    case h_2 => cases read
    simp only [Option.bind_eq_bind, Option.bind_eq_some_iff] at read
    obtain ⟨⟨name, _⟩, -, read⟩ := read
    split at read
    case h_2 => cases read
    simp only [Option.bind_eq_some_iff] at read
    obtain ⟨⟨item, left⟩, first, read⟩ := read
    have here := nesting_of_value first
    split at read
    · simp only [Option.bind_eq_some_iff, Option.pure_def, Option.some.injEq,
        Prod.mk.injEq] at read
      obtain ⟨⟨others, _⟩, more, rfl, -⟩ := read
      intro member mem
      rcases List.mem_cons.1 mem with rfl | mem
      · exact here
      · exact nesting_of_members more member mem
    · cases read
      intro member mem
      obtain rfl := List.mem_singleton.1 mem
      exact here
    · cases read

end

/-- What is read from a text nests at most 127 deep. -/
theorem nesting_of_parse? {text : String} (read : parse? text = some j) : j.nesting ≤ 127 := by
  rw [parse?, parseChars?] at read
  simp only [Option.bind_eq_bind, Option.bind_eq_some_iff] at read
  obtain ⟨⟨j', rest⟩, first, read⟩ := read
  split at read
  · cases read
    exact nesting_of_value first
  · cases read

/-! ## Fields -/

/-- The one member of a name is a member. -/
theorem mem_of_single? {name : String} (one : single? name held = some (some field)) :
    ∃ name, (name, field) ∈ held := by
  rw [single?] at one
  split at one
  · cases one
  · rename_i other _ found
    cases one
    have mem : (other, field) ∈ held.filter (·.1 == name) := by
      rw [found]
      exact List.mem_singleton_self _
    exact ⟨other, (List.mem_filter.1 mem).1⟩
  · cases one

/-- A member that is read nests less deep than the object it is read from. -/
theorem nesting_lt_of_members? (read : j.members? names = some fields)
    (mem : some field ∈ fields) : field.nesting < j.nesting := by
  cases j with
  | obj held =>
    obtain ⟨name, -, one⟩ := exists_of_mem_mapM read mem
    obtain ⟨other, within⟩ := mem_of_single? one
    exact Nat.lt_succ_of_le (membersNesting_le_iff.1 (Nat.le_refl _) _ within)
  | _ => cases read

/-- A field that is read nests less deep than the record it is read from. -/
theorem nesting_lt_of_fields? (read : j.fields? names = some fields)
    (mem : some field ∈ fields) : field.nesting < j.nesting := by
  cases j with
  | arr items =>
    rw [fields?] at read
    split at read
    · cases read
      obtain ⟨item, within, same⟩ := List.mem_map.1 mem
      cases same
      exact Nat.lt_succ_of_le (itemsNesting_le_iff.1 (Nat.le_refl _) _ within)
    · cases read
  | _ =>
    have object := read
    rw [fields?] at object
    · exact nesting_lt_of_members? object mem
    · exact nofun

end CurrencyLedger.Json
