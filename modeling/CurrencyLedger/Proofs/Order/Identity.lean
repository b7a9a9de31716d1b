import CurrencyLedger.Proofs.Codec.Kept
import CurrencyLedger.Proofs.Order.Written

/-! # What requests are recognised by

The text of an order tells all about it, so two orders of one kind have one fingerprint only if they
are attempts of one request, or if two texts have one digest.

* **`Sha256.Apart`** — messages with digests of their own;
* **`Order.requestBytes`**, **`Order.requestBytes_inj`** — what the fingerprint of an order is made
  from;
* **`Order.sameRequest_iff`** — whether orders are attempts of one request;
* **`Order.Written.answers`** — what an order is told by an entry of another one. -/

namespace CurrencyLedger

/-- Whether no two of the messages have one digest. -/
def Sha256.Apart (messages : List (List UInt8)) : Prop :=
  ∀ a ∈ messages, ∀ b ∈ messages, hex a = hex b → a = b

/-- Of messages with digests of their own, some have digests of their own. -/
theorem Sha256.Apart.mono {messages some : List (List UInt8)} (apart : Apart messages)
    (part : ∀ m ∈ some, m ∈ messages) : Apart some :=
  fun a mem b mem' => apart a (part a mem) b (part b mem')

/-! ## Bytes of texts -/

/-- The bytes of an array in a list, from one on, after others that were taken before. -/
theorem Text.toList_loop (bytes : ByteArray) (i : Nat) (taken : List UInt8) :
    ByteArray.toList.loop bytes i taken = taken.reverse ++ bytes.data.toList.drop i := by
  -- By induction on the bytes that are left.
  induction left : bytes.size - i generalizing i taken with
  | zero =>
    have none : ¬ i < bytes.size := by omega
    have all : bytes.data.toList.length ≤ i := by
      rw [Array.length_toList]
      exact Nat.not_lt.1 none
    rw [ByteArray.toList.loop, if_neg none, List.drop_eq_nil_of_le all, List.append_nil]
  | succ n ih =>
    have more : i < bytes.size := by omega
    have here : i < bytes.data.toList.length := by
      rw [Array.length_toList]
      exact more
    have first : bytes.get! i = bytes.data.toList[i] := getElem!_pos bytes.data i more
    rw [ByteArray.toList.loop, if_pos more, ih _ _ (by omega), List.drop_eq_getElem_cons here,
      first, List.reverse_cons, List.append_assoc]
    rfl

/-- Texts with the same bytes are the same. -/
theorem Text.utf8_inj {a b : String} : a.toUTF8.toList = b.toUTF8.toList ↔ a = b := by
  refine ⟨fun same => ?_, fun same => same ▸ rfl⟩
  rw [ByteArray.toList, ByteArray.toList, toList_loop, toList_loop] at same
  exact String.toByteArray_inj.1 (ByteArray.ext (Array.toList_inj.1 same))

/-! ## Texts of orders -/

/-- Adjustments with one JSON value are one adjustment. -/
theorem Adjustment.toJson_inj {a b : Adjustment} : a.toJson = b.toJson ↔ a = b := by
  obtain ⟨⟨⟨_⟩, ⟨_, _⟩⟩, ⟨_, _, _⟩, _⟩ := a
  obtain ⟨⟨⟨_⟩, ⟨_, _⟩⟩, ⟨_, _, _⟩, _⟩ := b
  simp [toJson, WalletId.toJson, Currency.toJson, Amount.toJson, and_assoc]

/-- Transfers with one JSON value are one transfer. -/
theorem Transfer.toJson_inj {a b : Transfer} : a.toJson = b.toJson ↔ a = b := by
  obtain ⟨⟨⟨_⟩, ⟨_, _⟩⟩, ⟨⟨_⟩, ⟨_, _⟩⟩, ⟨_, _, _⟩, _⟩ := a
  obtain ⟨⟨⟨_⟩, ⟨_, _⟩⟩, ⟨⟨_⟩, ⟨_, _⟩⟩, ⟨_, _, _⟩, _⟩ := b
  simp only [toJson, WalletId.toJson, Currency.toJson, Amount.toJson, Json.obj.injEq,
    List.cons.injEq, Prod.mk.injEq, Json.int.injEq, Json.str.injEq, Transfer.mk.injEq,
    Account.mk.injEq, WalletId.mk.injEq, Currency.mk.injEq, Amount.mk.injEq, and_true, true_and]
  tauto

namespace Order

variable {a b order other : Order} {before block : List Entry} {entry : Entry}

/-- The bytes that the fingerprint of an order is made from. -/
def requestBytes : Order → List UInt8
  | .adjust _ order => order.toJson.text.toUTF8.toList
  | .move _ order => order.toJson.text.toUTF8.toList

/-- The fingerprint of an order is the digest of its bytes. -/
theorem fingerprint_eq (order : Order) : order.fingerprint = .ofBytes order.requestBytes := by
  cases order <;> rfl

/-- Orders of one kind with the same bytes are attempts of one request. -/
theorem requestBytes_inj (kind : a.kind = b.kind) (countable : a.Countable)
    (countable' : b.Countable) : a.requestBytes = b.requestBytes ↔ a.SameRequest b := by
  cases a with
  | adjust direction a =>
    cases b with
    | move rates b => cases direction <;> cases kind
    | adjust direction' b =>
      have same : direction = direction' := by
        cases direction <;> cases direction' <;> cases kind <;> rfl
      have exact := Adjustment.isExact_toJson (countable _ (List.mem_singleton_self _))
      have exact' := Adjustment.isExact_toJson (countable' _ (List.mem_singleton_self _))
      rw [requestBytes, requestBytes, Text.utf8_inj, Json.text_inj exact exact',
        Adjustment.toJson_inj, SameRequest]
      exact (and_iff_right same).symm
  | move rates a =>
    cases b with
    | adjust direction b => cases direction <;> cases kind
    | move rates' b =>
      have exact := Transfer.isExact_toJson (countable _ List.mem_cons_self)
        (countable _ (List.mem_cons_of_mem _ (List.mem_singleton_self _)))
      have exact' := Transfer.isExact_toJson (countable' _ List.mem_cons_self)
        (countable' _ (List.mem_cons_of_mem _ (List.mem_singleton_self _)))
      rw [requestBytes, requestBytes, Text.utf8_inj, Json.text_inj exact exact',
        Transfer.toJson_inj, SameRequest]

/-- Attempts of one request are of one kind. -/
theorem SameRequest.kind_eq (same : a.SameRequest b) : a.kind = b.kind := by
  rcases same.eq_or_move with rfl | ⟨_, _, _, rfl, rfl⟩ <;> rfl

/-- Orders are attempts of one request iff they are of one kind and have one fingerprint, unless
their texts have one digest. -/
theorem sameRequest_iff (apart : Sha256.Apart [a.requestBytes, b.requestBytes])
    (countable : a.Countable) (countable' : b.Countable) :
    a.SameRequest b ↔ a.kind = b.kind ∧ a.fingerprint = b.fingerprint := by
  constructor
  · intro same
    refine ⟨same.kind_eq, ?_⟩
    rcases same.eq_or_move with rfl | ⟨_, _, _, rfl, rfl⟩ <;> rfl
  · rintro ⟨kind, fingerprint⟩
    rw [fingerprint_eq, fingerprint_eq] at fingerprint
    refine (requestBytes_inj kind countable countable').1 (apart _ List.mem_cons_self _ ?_ ?_)
    · exact List.mem_cons_of_mem _ (List.mem_singleton_self _)
    · exact Fingerprint.mk.inj fingerprint

/-! ## Entries of other orders -/

/-- No side of an order has its own reference. -/
theorem reference_notMem_sides (order : Order) : order.reference ∉ order.sides := by
  cases order with
  | adjust direction order => exact List.not_mem_nil
  | move rates order =>
    intro mem
    rcases List.mem_cons.1 mem with same | mem
    · exact order.outgoing_ne_reference same.symm
    · exact order.incoming_ne_reference (List.mem_singleton.1 mem).symm

/-- An entry that an order has written stands under its reference and keeps a completion with a
receipt, or stands under the reference of a side and keeps none. -/
theorem Written.keeps_or_side (written : other.Written before block) (mem : entry ∈ block) :
    (entry.reference = some other.reference ∧
      ∃ completion receipt, Completion.ofEntry other.reference entry = .ok completion ∧
        completion.kind = other.kind ∧ completion.fingerprint = other.fingerprint ∧
        other.readOutcome completion.outcome = some receipt) ∨
    ∃ side ∈ other.sides, entry.reference = some side ∧
      ∀ reference, Completion.ofEntry reference entry = .error (.taken reference) := by
  have read {α : Type} {completion : Completion} {read : Json → Option α} {reference : String}
      {receipt : α} (kept : completion.outcomeAs read reference = .ok receipt) :
      read completion.outcome = some receipt := by
    rw [Completion.outcomeAs] at kept
    split at kept
    · rename_i a outcome
      rw [outcome, Except.ok.inj kept]
    · cases kept
  cases other with
  | adjust direction order =>
    rcases block with _ | ⟨only, _ | ⟨_, _⟩⟩
    · cases mem
    · obtain rfl := List.mem_singleton.1 mem
      obtain ⟨completion, receipt, kept, kind, fingerprint, outcome, -⟩ := written.kept
      exact Or.inl ⟨written.told.reference, completion, .adjusted receipt, kept, kind, fingerprint,
        congrArg (Option.map Receipt.adjusted) (read outcome)⟩
    · exact written.elim
  | move rates order =>
    rcases block with _ | ⟨outgoing, _ | ⟨incoming, _ | ⟨record, _ | ⟨_, _⟩⟩⟩⟩
    · cases mem
    · exact written.elim
    · exact written.elim
    · rcases List.mem_cons.1 mem with rfl | mem
      · exact Or.inr ⟨order.outgoing, List.mem_cons_self, written.debit.reference,
          fun reference => (written.sides reference).1⟩
      rcases List.mem_cons.1 mem with rfl | mem
      · obtain ⟨converted, credit⟩ := written.credit
        exact Or.inr ⟨order.incoming, List.mem_cons_of_mem _ (List.mem_singleton_self _),
          credit.reference, fun reference => (written.sides reference).2⟩
      · obtain rfl := List.mem_singleton.1 mem
        obtain ⟨completion, receipt, kept, kind, fingerprint, outcome, -⟩ := written.kept
        exact Or.inl ⟨written.keeper.reference, completion, .moved receipt, kept, kind, fingerprint,
          congrArg (Option.map Receipt.moved) (read outcome)⟩
    · exact written.elim

/-- An entry that keeps a completion of another kind, or of another request, tells an order that its
reference is in use. -/
theorem receiptIn_of_differs {completion : Completion}
    (kept : Completion.ofEntry order.reference entry = .ok completion)
    (differs : ¬ (completion.kind = order.kind ∧ completion.fingerprint = order.fingerprint)) :
    order.receiptIn entry = .error (.idempotencyConflict order.reference) := by
  obtain ⟨mismatch, refused, conflict⟩ : ∃ mismatch,
      completion.verify order.reference order.kind order.fingerprint = .error mismatch ∧
        LedgerError.ofCompletion mismatch = .idempotencyConflict order.reference := by
    rw [Completion.verify]
    split
    · exact ⟨_, rfl, rfl⟩
    · rename_i kind
      have other := fun same => differs ⟨not_not.1 kind, same⟩
      exact ⟨_, if_pos other, rfl⟩
  rw [receiptIn, Completion.accepted, kept]
  simp only [Except.mapError, bind, Except.bind, refused, conflict]

/-- An order that finds an entry of another one under its reference is told a receipt if the other
one is an attempt of the same request, and that the reference is in use if it is not. -/
theorem Written.answers (written : other.Written before block) (mem : entry ∈ block)
    (named : entry.reference = some order.reference)
    (apart : Sha256.Apart [other.requestBytes, order.requestBytes])
    (countable : other.Countable) (countable' : order.Countable) :
    (other.SameRequest order ∧ ∃ receipt, order.receiptIn entry = .ok receipt) ∨
    (¬ other.SameRequest order ∧
      order.receiptIn entry = .error (.idempotencyConflict order.reference)) := by
  rcases written.keeps_or_side mem with
    ⟨reference, completion, receipt, kept, kind, fingerprint, outcome⟩ |
    ⟨side, other', reference, taken⟩
  · rw [← Option.some.inj (named.symm.trans reference)] at kept
    by_cases same : other.SameRequest order
    · obtain ⟨kind', fingerprint'⟩ := (sameRequest_iff apart countable countable').1 same
      rw [readOutcome_congr kind'] at outcome
      exact Or.inl ⟨same, receipt, receiptIn_eq_ok kept (kind.trans kind')
        (fingerprint.trans fingerprint') outcome⟩
    · refine Or.inr ⟨same, ?_⟩
      rw [sameRequest_iff apart countable countable', ← kind, ← fingerprint] at same
      exact receiptIn_of_differs kept same
  · refine Or.inr ⟨fun same => ?_, ?_⟩
    · -- An attempt of the same request would have its reference in common with a side of its own.
      rw [same.sides_eq, ← Option.some.inj (named.symm.trans reference)] at other'
      exact order.reference_notMem_sides other'
    · rw [receiptIn, Completion.accepted, taken]
      rfl

end Order

end CurrencyLedger
