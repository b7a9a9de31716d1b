import CurrencyLedger.Json.Fields
import Mathlib.Logic.Function.Iterate

/-! # Canonical JSON values and their fields

What is kept with an entry is brought into canonical form several times on its way. The fields of a
record are the same afterwards, as long as no name is repeated.

* **`lookup_canonicalMembers`** — the members of a canonical object are the canonical members;
* **`fields?_iterate_canonical`** — the fields of a record that was brought into canonical form any
  number of times;
* **`canonical_canonical`** — a canonical value is its own canonical form;
* **`isReadable_canonical`** — what can be read can be read in canonical form. -/

namespace CurrencyLedger.Json

variable {name : String} {value : Json} {members : List (String × Json)}

/-! ## Members by name -/

@[simp] theorem lookup_nil (name : String) : lookup name [] = none := rfl

/-- The first member stands for its name. -/
theorem lookup_cons (name other : String) (value : Json) (members : List (String × Json)) :
    lookup name ((other, value) :: members) =
      if other = name then some value else lookup name members := by
  by_cases same : other = name
  · rw [lookup, List.find?_cons_of_pos (by simpa using same), if_pos same]
    rfl
  · rw [lookup, List.find?_cons_of_neg (by simpa using same), if_neg same, lookup]

/-- The first of two lists of members that has a name stands for it. -/
theorem lookup_append (name : String) (members more : List (String × Json)) :
    lookup name (members ++ more) = (lookup name members).or (lookup name more) := by
  induction members with
  | nil => rfl
  | cons member members ih =>
    rw [List.cons_append, lookup_cons, lookup_cons, ih]
    split <;> rfl

/-- What is not among the names has no member. -/
theorem lookup_eq_none (absent : name ∉ members.map Prod.fst) : lookup name members = none := by
  induction members with
  | nil => rfl
  | cons member members ih =>
    obtain ⟨different, absent⟩ := not_or.1 fun h => absent (List.mem_cons.2 h)
    rw [lookup_cons, if_neg fun same => different same.symm, ih absent]

/-- Where no name is repeated, the one member of a name is the first. -/
theorem single?_eq (distinct : (members.map Prod.fst).Nodup) :
    single? name members = some (lookup name members) := by
  induction members with
  | nil => rfl
  | cons member members ih =>
    obtain ⟨other, value⟩ := member
    obtain ⟨absent, distinct⟩ := List.nodup_cons.1 distinct
    have tail := ih distinct
    by_cases same : other = name
    · have none : members.filter (·.1 == name) = [] := by
        rw [List.filter_eq_nil_iff]
        intro member mem here
        exact absent (List.mem_map.2 ⟨member, mem, (eq_of_beq here).trans same.symm⟩)
      rw [lookup_cons, if_pos same, single?, List.filter_cons_of_pos (by simpa using same), none]
    · rw [lookup_cons, if_neg same, ← tail, single?, single?,
        List.filter_cons_of_neg (by simpa using same)]

/-! ## Canonical members -/

/-- A new name is added to the names. -/
theorem mem_names_addMember {other : String} :
    other ∈ (addMember name value members).map Prod.fst ↔
      other = name ∨ other ∈ members.map Prod.fst := by
  induction members with
  | nil => simp [addMember]
  | cons member members ih =>
    obtain ⟨first, held⟩ := member
    rw [addMember]
    cases order : compare name first with
    | lt => simp
    | eq =>
      have same : name = first := Std.LawfulEqCmp.eq_of_compare order
      simp [same]
    | gt =>
      simp only [List.map_cons, List.mem_cons, ih]
      exact or_left_comm

/-- Adding a new name repeats none. -/
theorem nodup_addMember (absent : name ∉ members.map Prod.fst)
    (distinct : (members.map Prod.fst).Nodup) :
    ((addMember name value members).map Prod.fst).Nodup := by
  induction members with
  | nil => simp [addMember]
  | cons member members ih =>
    obtain ⟨first, held⟩ := member
    obtain ⟨different, absent⟩ := not_or.1 (fun h => absent (List.mem_cons.2 h))
    obtain ⟨unique, distinct⟩ := List.nodup_cons.1 distinct
    rw [addMember]
    cases order : compare name first with
    | lt => exact List.nodup_cons.2 ⟨fun h => (List.mem_cons.1 h).elim different absent,
        List.nodup_cons.2 ⟨unique, distinct⟩⟩
    | eq => exact List.nodup_cons.2 ⟨unique, distinct⟩
    | gt =>
      refine List.nodup_cons.2 ⟨fun h => ?_, ih absent distinct⟩
      exact (mem_names_addMember.1 h).elim (fun same => different same.symm) unique

/-- After a new name is added it has its value and every other name what it had. -/
theorem lookup_addMember (absent : name ∉ members.map Prod.fst) (other : String) :
    lookup other (addMember name value members) =
      if name = other then some value else lookup other members := by
  induction members with
  | nil => rw [addMember, lookup_cons]
  | cons member members ih =>
    obtain ⟨first, held⟩ := member
    obtain ⟨different, absent⟩ := not_or.1 (fun h => absent (List.mem_cons.2 h))
    rw [addMember]
    cases order : compare name first with
    | lt => exact lookup_cons other name value _
    | eq => exact absurd (Std.LawfulEqCmp.eq_of_compare order) different
    | gt =>
      simp only [lookup_cons, ih absent]
      by_cases here : first = other
      · rw [if_pos here, if_pos here, if_neg (fun h => different (h.trans here.symm))]
      · rw [if_neg here, if_neg here]

/-- Canonical members have the names of the members. -/
theorem mem_names_canonicalMembers {other : String} :
    other ∈ (canonicalMembers members).map Prod.fst ↔ other ∈ members.map Prod.fst := by
  induction members with
  | nil => rfl
  | cons member members ih =>
    obtain ⟨first, held⟩ := member
    rw [canonicalMembers, mem_names_addMember, ih, List.map_cons, List.mem_cons]

/-- Where no name is repeated, none is in canonical form. -/
theorem nodup_canonicalMembers (distinct : (members.map Prod.fst).Nodup) :
    ((canonicalMembers members).map Prod.fst).Nodup := by
  induction members with
  | nil => exact List.nodup_nil
  | cons member members ih =>
    obtain ⟨first, held⟩ := member
    obtain ⟨absent, distinct⟩ := List.nodup_cons.1 distinct
    rw [canonicalMembers]
    exact nodup_addMember (fun h => absent (mem_names_canonicalMembers.1 h)) (ih distinct)

/-- Where no name is repeated, the member of a name in canonical form is its canonical member. -/
theorem lookup_canonicalMembers (distinct : (members.map Prod.fst).Nodup) (name : String) :
    lookup name (canonicalMembers members) = (lookup name members).map canonical := by
  induction members with
  | nil => rfl
  | cons member members ih =>
    obtain ⟨first, held⟩ := member
    obtain ⟨absent, distinct⟩ := List.nodup_cons.1 distinct
    rw [canonicalMembers, lookup_addMember (fun h => absent (mem_names_canonicalMembers.1 h)),
      lookup_cons, ih distinct]
    split <;> rfl

/-! ## Canonical form any number of times -/

/-- Values without parts are canonical. -/
@[simp] theorem iterate_canonical_str (s : String) (k : Nat) : canonical^[k] (.str s) = .str s :=
  Function.iterate_fixed rfl k

/-- Values without parts are canonical. -/
@[simp] theorem iterate_canonical_int (n : Int) (k : Nat) : canonical^[k] (.int n) = .int n :=
  Function.iterate_fixed rfl k

/-- Values without parts are canonical. -/
@[simp] theorem iterate_canonical_null (k : Nat) : canonical^[k] .null = .null :=
  Function.iterate_fixed rfl k

/-- An object stays one with members of the same names, however often it is brought into canonical
form. -/
theorem iterate_canonical_obj (distinct : (members.map Prod.fst).Nodup) (k : Nat) :
    ∃ members', canonical^[k] (.obj members) = .obj members' ∧ (members'.map Prod.fst).Nodup ∧
      ∀ name, lookup name members' = (lookup name members).map canonical^[k] := by
  induction k with
  | zero => exact ⟨members, rfl, distinct, fun name => (Option.map_id_apply).symm⟩
  | succ k ih =>
    obtain ⟨members', same, distinct', find⟩ := ih
    refine ⟨canonicalMembers members', ?_, nodup_canonicalMembers distinct', fun name => ?_⟩
    · rw [Function.iterate_succ_apply', same]
      rfl
    · rw [lookup_canonicalMembers distinct', find, Option.map_map, Function.iterate_succ']

/-- The members of a record that was brought into canonical form are the canonical members. -/
theorem members?_iterate_canonical (distinct : (members.map Prod.fst).Nodup) (names : List String)
    (k : Nat) : members? names (canonical^[k] (.obj members)) =
      some (names.map fun name => (lookup name members).map canonical^[k]) := by
  obtain ⟨members', same, distinct', find⟩ := iterate_canonical_obj distinct k
  have single : (single? · members') = fun name => some ((lookup name members).map canonical^[k]) := by
    funext name
    rw [single?_eq distinct', find]
  rw [same]
  show names.mapM (single? · members') = _
  rw [single]
  exact List.mapM_pure

/-- The fields of a record that was brought into canonical form are the canonical fields. -/
theorem fields?_iterate_canonical (distinct : (members.map Prod.fst).Nodup) (names : List String)
    (k : Nat) : fields? names (canonical^[k] (.obj members)) =
      some (names.map fun name => (lookup name members).map canonical^[k]) := by
  have read := members?_iterate_canonical distinct names k
  obtain ⟨members', same, -⟩ := iterate_canonical_obj distinct k
  rw [same] at read ⊢
  exact read

/-- The items of a canonical list are the canonical items. -/
theorem canonicalItems_eq_map (items : List Json) : canonicalItems items = items.map canonical := by
  induction items with
  | nil => rfl
  | cons item items ih => rw [canonicalItems, ih, List.map_cons]

/-- A list stays one, and its items are brought into canonical form as often as it is. -/
theorem iterate_canonical_arr (items : List Json) (k : Nat) :
    canonical^[k] (.arr items) = .arr (items.map canonical^[k]) := by
  induction k with
  | zero => exact congrArg Json.arr (List.map_id _).symm
  | succ k ih =>
    rw [Function.iterate_succ_apply', ih, Function.iterate_succ', canonical, canonicalItems_eq_map,
      List.map_map]

/-! ## Canonical form once -/

/-- Members in ascending order of their names. -/
def Ascending (members : List (String × Json)) : Prop :=
  members.Pairwise fun a b => compare a.1 b.1 = .lt

/-- Added to ascending members, one leaves them ascending. -/
theorem Ascending.addMember (ascending : Ascending members) :
    Ascending (addMember name value members) := by
  induction members with
  | nil => exact List.pairwise_singleton _ _
  | cons member members ih =>
    obtain ⟨other, held⟩ := member
    obtain ⟨first, rest⟩ := List.pairwise_cons.1 ascending
    rw [Json.addMember]
    cases order : compare name other with
    | lt =>
      refine List.pairwise_cons.2 ⟨fun member mem => ?_, ascending⟩
      rcases List.mem_cons.1 mem with rfl | mem
      · exact order
      · exact Std.TransCmp.lt_trans order (first member mem)
    | eq => exact ascending
    | gt =>
      refine List.pairwise_cons.2 ⟨fun member mem => ?_, ih rest⟩
      rcases mem_names_addMember.1 (List.mem_map_of_mem mem) with same | old
      · rw [same]
        exact Std.OrientedCmp.gt_iff_lt.1 order
      · obtain ⟨member', mem', same⟩ := List.mem_map.1 old
        rw [← same]
        exact first member' mem'

/-- Canonical members are in ascending order. -/
theorem ascending_canonicalMembers (members : List (String × Json)) :
    Ascending (canonicalMembers members) := by
  induction members with
  | nil => exact List.Pairwise.nil
  | cons member members ih =>
    rw [canonicalMembers]
    exact ih.addMember

/-- A member after one is added is the new one or one of the old. -/
theorem mem_addMember {member : String × Json} (mem : member ∈ addMember name value members) :
    member = (name, value) ∨ member ∈ members := by
  induction members with
  | nil => exact .inl (List.mem_singleton.1 mem)
  | cons held members ih =>
    rw [addMember] at mem
    cases order : compare name held.1 with
    | lt =>
      simp only [order, List.mem_cons] at mem
      exact mem.imp_right List.mem_cons.2
    | eq =>
      simp only [order] at mem
      exact .inr mem
    | gt =>
      simp only [order, List.mem_cons] at mem
      rcases mem with rfl | mem
      · exact .inr List.mem_cons_self
      · exact (ih mem).imp_right (List.mem_cons_of_mem _)

/-- Ascending members with canonical values are canonical. -/
theorem canonicalMembers_eq_self (ascending : Ascending members)
    (values : ∀ member ∈ members, member.2.canonical = member.2) :
    canonicalMembers members = members := by
  induction members with
  | nil => rfl
  | cons member members ih =>
    obtain ⟨name, value⟩ := member
    obtain ⟨first, rest⟩ := List.pairwise_cons.1 ascending
    rw [canonicalMembers, ih rest fun member mem => values member (List.mem_cons_of_mem _ mem),
      values _ List.mem_cons_self]
    -- The name comes before the first of the others, so it stays where it is.
    cases members with
    | nil => rfl
    | cons other members =>
      rw [addMember, first other List.mem_cons_self]

mutual

/-- A canonical value is its own canonical form. -/
theorem canonical_canonical : ∀ j : Json, j.canonical.canonical = j.canonical
  | .null | .bool _ | .int _ | .real _ | .str _ | .unreadable => rfl
  | .arr items => congrArg Json.arr (canonicalItems_canonicalItems items)
  | .obj members => congrArg Json.obj
      (canonicalMembers_eq_self (ascending_canonicalMembers members) (canonical_of_mem members))

/-- Canonical items are their own canonical forms. -/
theorem canonicalItems_canonicalItems : ∀ items : List Json,
    canonicalItems (canonicalItems items) = canonicalItems items
  | [] => rfl
  | item :: items => by
    rw [canonicalItems, canonicalItems, canonical_canonical item,
      canonicalItems_canonicalItems items]

/-- The values of canonical members are canonical. -/
theorem canonical_of_mem : ∀ members : List (String × Json),
    ∀ member ∈ canonicalMembers members, member.2.canonical = member.2
  | [], _, mem => by cases mem
  | (_, value) :: members, member, mem => by
    rw [canonicalMembers] at mem
    rcases mem_addMember mem with rfl | mem
    · exact canonical_canonical value
    · exact canonical_of_mem members member mem

end

/-! ## Readable values -/

/-- Added to readable members, a readable one leaves them readable. -/
theorem membersReadable_addMember (readable : value.isReadable = true)
    (others : membersReadable members = true) :
    membersReadable (addMember name value members) = true := by
  induction members with
  | nil => simp [addMember, membersReadable, readable]
  | cons member members ih =>
    obtain ⟨first, held⟩ := member
    rw [membersReadable, Bool.and_eq_true] at others
    rw [addMember]
    split
    · simp [membersReadable, readable, others]
    · simp [membersReadable, others]
    · simp [membersReadable, others, ih others.2]

mutual

/-- What can be read can be read in canonical form. -/
theorem isReadable_canonical : ∀ j : Json, j.isReadable = true → j.canonical.isReadable = true
  | .null, _ | .bool _, _ | .int _, _ | .real _, _ | .str _, _ => rfl
  | .arr items, readable => areReadable_canonicalItems items readable
  | .obj members, readable => membersReadable_canonicalMembers members readable

/-- Items that can be read can be read in canonical form. -/
theorem areReadable_canonicalItems : ∀ items : List Json, areReadable items = true →
    areReadable (canonicalItems items) = true
  | [], _ => rfl
  | item :: items, readable => by
    rw [areReadable, Bool.and_eq_true] at readable
    rw [canonicalItems, areReadable, Bool.and_eq_true]
    exact ⟨isReadable_canonical item readable.1, areReadable_canonicalItems items readable.2⟩

/-- Members that can be read can be read in canonical form. -/
theorem membersReadable_canonicalMembers : ∀ members : List (String × Json),
    membersReadable members = true → membersReadable (canonicalMembers members) = true
  | [], _ => rfl
  | (name, value) :: members, readable => by
    rw [membersReadable, Bool.and_eq_true] at readable
    rw [canonicalMembers]
    exact membersReadable_addMember (isReadable_canonical value readable.1)
      (membersReadable_canonicalMembers members readable.2)

end

/-- What can be read can be read however often it is brought into canonical form. -/
theorem isReadable_iterate_canonical {j : Json} (readable : j.isReadable = true) (k : Nat) :
    (canonical^[k] j).isReadable = true := by
  induction k with
  | zero => exact readable
  | succ k ih =>
    rw [Function.iterate_succ_apply']
    exact isReadable_canonical _ ih

/-- The canonical form of a readable value is readable and canonical. -/
theorem canonical_of_value? {j j' : Json} (read : j.value? = some j') :
    j'.isReadable = true ∧ j'.canonical = j' := by
  rw [value?] at read
  split at read
  case isTrue readable =>
    cases read
    exact ⟨isReadable_canonical j readable, canonical_canonical j⟩
  case isFalse => cases read

/-- The canonical form of a readable value that is not `null` is not either. -/
theorem ne_null_of_value? {j j' : Json} (read : j.value? = some j') (solid : j ≠ .null) :
    j' ≠ .null := by
  rw [value?] at read
  split at read
  case isTrue =>
    cases read
    cases j with
    | null => exact absurd rfl solid
    | _ => nofun
  case isFalse => cases read

end CurrencyLedger.Json
