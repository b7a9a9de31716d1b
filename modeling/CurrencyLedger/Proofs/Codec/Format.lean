import CurrencyLedger.Instant.Text
import CurrencyLedger.Proofs.Codec.Nesting

/-! # Formats

How the values of a type are kept as JSON, and when keeping them loses nothing. A value becomes a
JSON value, whose members are then in canonical order, or a text.

* **`Format`** — how values are written and read, and which parts of them JSON cannot hold as they
  are;
* **`Format.Holds`** — the values that the program can have: numbers of 64 bits, years that can be
  told, and free parts that are JSON values in canonical form;
* **`Format.Faithful`** — reading undoes writing, and writing what was read loses nothing;
* **`Format.Lawful`** — what has to be shown about a format, field by field;
* **`Format.Flat`** — the same for a record that may stand among the members of a larger one. -/

namespace CurrencyLedger

open Json (canonical fields? members? lookup)

/-- How values of a type are kept as JSON values. -/
structure Format (α : Type) where
  /-- Writes a value. -/
  write : α → Json
  /-- Reads a value. -/
  read : Json → Option α
  /-- The integers of a value. -/
  numbers : α → List Int
  /-- The instants of a value. -/
  instants : α → List Instant := fun _ => []
  /-- The parts of a value that are JSON values themselves. -/
  free : α → List Json := fun _ => []
  /-- Those of them that may be missing, which `null` stands for. -/
  optional : α → List Json := fun _ => []
  /-- The value without the signs of its zeros. -/
  plain : α → α := fun a => a

namespace Format

variable {α : Type} {f : Format α} {a : α} {j : Json}

/-- Whether a value is one that the program can have. -/
structure Holds (f : Format α) (a : α) : Prop where
  /-- Its integers are signed ones of 64 bits. -/
  numbers : ∀ n ∈ f.numbers a, Decimal.isInt64 n = true
  /-- Its instants have years that can be told. -/
  instants : ∀ t ∈ f.instants a, Instant.isYear (Instant.civil t.day).year = true
  /-- Its free parts are JSON values, each name once and in order. -/
  free : ∀ j ∈ f.free a, j.isReadable = true ∧ j.canonical = j
  /-- What may be missing is not there as `null`. -/
  optional : ∀ j ∈ f.optional a, j ≠ .null

/-- A value without instants and free parts is one that the program can have if its integers have 64
bits. -/
theorem Holds.of_numbers (numbers : ∀ n ∈ f.numbers a, Decimal.isInt64 n = true)
    (instants : f.instants a = []) (free : f.free a = []) (optional : f.optional a = []) :
    f.Holds a where
  numbers := numbers
  instants _ mem := absurd (instants ▸ mem) List.not_mem_nil
  free _ mem := absurd (free ▸ mem) List.not_mem_nil
  optional _ mem := absurd (optional ▸ mem) List.not_mem_nil

/-- Whether nothing is lost by writing and reading but the signs of zeros. -/
structure Faithful (f : Format α) : Prop where
  /-- A value is read back from the JSON value that it is written as. -/
  value : ∀ {a}, f.Holds a → f.read (f.write a).canonical = some (f.plain a)
  /-- A value is read back from the text that it is written as, if its free parts hold no numbers
  but integers and leave room for a level around them among the 127 that are read. -/
  text : ∀ {a}, f.Holds a → (∀ j ∈ f.free a, Json.isExact 126 j = true) →
    (Json.parse? (f.write a).text).bind f.read = some (f.plain a)
  /-- What was read from any text is written to a text from which it is read again, if its free
  parts hold no numbers but integers. -/
  again : ∀ {s a}, (Json.parse? s).bind f.read = some a →
    (∀ j ∈ f.free a, ∃ room, Json.isExact room j = true) →
    f.Holds a ∧ (Json.parse? (f.write a).text).bind f.read = some (f.plain a)

/-- What makes a format faithful. -/
structure Lawful (f : Format α) : Prop where
  /-- A value is read back, however often it was brought into canonical form. -/
  back : ∀ {a}, f.Holds a → ∀ k, f.read (canonical^[k] (f.write a)) = some (f.plain a)
  /-- What is written can be read back from a text if the free parts can. -/
  exact : ∀ {a}, f.Holds a → (∀ j ∈ f.free a, Json.isExact 126 j = true) →
    Json.isExact 127 (f.write a) = true
  /-- Only what the program can have is read. -/
  holds : ∀ {j a}, f.read j = some a → f.Holds a
  /-- The free parts nest less deep than what they are read from. -/
  nests : ∀ {j a}, f.read j = some a → ∀ part ∈ f.free a, part.nesting < j.nesting

/-- Free parts that were read from a text leave room for a level around them. -/
theorem Lawful.nesting_lt (lawful : f.Lawful) {s : String}
    (read : (Json.parse? s).bind f.read = some a) : ∀ part ∈ f.free a, part.nesting < 127 := by
  intro part mem
  obtain ⟨j, parsed, read⟩ := Option.bind_eq_some_iff.1 read
  exact Nat.lt_of_lt_of_le (lawful.nests read part mem) (Json.nesting_of_parse? parsed)

/-- A lawful format is faithful. -/
theorem Lawful.faithful (lawful : f.Lawful) : f.Faithful := by
  have text {a : α} (holds : f.Holds a) (free : ∀ j ∈ f.free a, Json.isExact 126 j = true) :
      (Json.parse? (f.write a).text).bind f.read = some (f.plain a) := by
    rw [Json.parse?_text (lawful.exact holds free)]
    exact lawful.back holds 0
  refine ⟨fun holds => lawful.back holds 1, text, fun {s a} read whole => ?_⟩
  obtain ⟨j, -, found⟩ := Option.bind_eq_some_iff.1 read
  refine ⟨lawful.holds found, text (lawful.holds found) fun part mem => ?_⟩
  -- The part was read one level down at least, and is written one level down.
  obtain ⟨room, exact⟩ := whole part mem
  exact Json.isExact_of_nesting_le part exact (Nat.le_of_lt_succ (lawful.nesting_lt read part mem))

/-! ## Records among other members -/

/-- What makes a record lawful by itself and among other members. -/
structure Flat (f : Format α) (members : α → List (String × Json)) (names : List String)
    (ofFields? : List (Option Json) → Option α) : Prop where
  /-- The record is written as an object. -/
  write_eq : ∀ a, f.write a = .obj (members a)
  /-- The record is read from its fields. -/
  read_eq : ∀ j, f.read j = (fields? names j).bind ofFields?
  /-- Nothing in the record is free. -/
  free_eq : ∀ a, f.free a = []
  /-- The members have the names that are read. -/
  names_eq : ∀ a, (members a).map Prod.fst = names
  /-- No name is repeated. -/
  distinct : names.Nodup
  /-- The fields are read back, however often they were brought into canonical form. -/
  back : ∀ {a}, f.Holds a → ∀ k,
    ofFields? (names.map fun name => (lookup name (members a)).map canonical^[k]) =
      some (f.plain a)
  /-- The members can be read back from a text, with room for two levels. -/
  exact : ∀ {a}, f.Holds a → ∀ room, Json.membersExact (room + 1) (members a) = true
  /-- Only what the program can have is read. -/
  holds : ∀ {fields a}, ofFields? fields = some a → f.Holds a

variable {members : α → List (String × Json)} {names : List String}
  {ofFields? : List (Option Json) → Option α}

/-- A record is lawful. -/
theorem Flat.lawful (flat : Flat f members names ofFields?) : f.Lawful where
  back {a} holds k := by
    have distinct : ((members a).map Prod.fst).Nodup := flat.names_eq a ▸ flat.distinct
    rw [flat.read_eq, flat.write_eq, Json.fields?_iterate_canonical distinct, Option.bind_some]
    exact flat.back holds k
  exact {a} holds _ := by
    rw [flat.write_eq]
    exact flat.exact holds 125
  holds {j a} read := by
    rw [flat.read_eq] at read
    obtain ⟨fields, -, read⟩ := Option.bind_eq_some_iff.1 read
    exact flat.holds read
  nests {j a} _ part mem := by
    rw [flat.free_eq] at mem
    cases mem

/-- A member of a new name after those of a record repeats no name. -/
theorem Flat.nodup_append (flat : Flat f members names ofFields?) (a : α) {name : String}
    (fresh : name ∉ names) (more : Json) :
    ((members a ++ [(name, more)]).map Prod.fst).Nodup := by
  rw [List.map_append, flat.names_eq, List.map_singleton]
  refine List.nodup_append.2 ⟨flat.distinct, by simp, fun name' mem last here same => ?_⟩
  obtain rfl := List.mem_singleton.1 here
  exact fresh (same ▸ mem)

/-- A record and a member after it are read back from one object. -/
theorem Flat.members?_append (flat : Flat f members names ofFields?) (holds : f.Holds a) (k : Nat)
    {name : String} (fresh : name ∉ names) (more : Json) :
    ((canonical^[k] (.obj (members a ++ [(name, more)]))).members? names).bind ofFields? =
        some (f.plain a) ∧
      (canonical^[k] (.obj (members a ++ [(name, more)]))).members? [name] =
        some [some (canonical^[k] more)] := by
  have distinct := flat.nodup_append a fresh more
  refine ⟨?_, ?_⟩
  · -- The names of the record are none of the member after it.
    have own : names.map (fun name' => (lookup name' (members a ++ [(name, more)])).map
        canonical^[k]) = names.map fun name' => (lookup name' (members a)).map canonical^[k] := by
      refine List.map_congr_left fun name' mem => ?_
      have other : name ≠ name' := fun same => fresh (same ▸ mem)
      rw [Json.lookup_append, Json.lookup_cons, if_neg other, Json.lookup_nil, Option.or_none]
    rw [Json.members?_iterate_canonical distinct, own, Option.bind_some]
    exact flat.back holds k
  · have absent : lookup name (members a) = none :=
      Json.lookup_eq_none (flat.names_eq a ▸ fresh)
    rw [Json.members?_iterate_canonical distinct, List.map_singleton, Json.lookup_append, absent,
      Option.none_or, Json.lookup_cons, if_pos rfl]
    rfl

end Format

end CurrencyLedger
