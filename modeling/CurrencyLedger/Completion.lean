import CurrencyLedger.Context
import CurrencyLedger.Entry
import CurrencyLedger.Fingerprint

/-! # Completions

What a completed operation leaves behind, so that it is not done twice: its kind, the fingerprint of
its request, its outcome, and who asked for it when. A completion is kept as the metadata of the
entry that carries the caller's reference.

* **`Completion.ofEntry`** — the completion that an entry carries;
* **`Completion.verify`** — whether a new request is the one completed before. -/

namespace CurrencyLedger

/-- What an operation does. -/
inductive OperationKind where
  /-- Moves money between two accounts. -/
  | transfer
  /-- Puts money into an account. -/
  | deposit
  /-- Takes money out of an account. -/
  | withdraw
  deriving DecidableEq, Repr

namespace OperationKind

/-- Every kind. -/
def all : List OperationKind := [.transfer, .deposit, .withdraw]

/-- The name of a kind. -/
def text : OperationKind → String
  | .transfer => "transfer"
  | .deposit => "deposit"
  | .withdraw => "withdraw"

/-- The kind of a name. -/
def ofText? (text : String) : Option OperationKind := all.find? (·.text == text)

/-- A kind as a JSON value. -/
def toJson (kind : OperationKind) : Json := .str kind.text

/-- Reads a kind from a JSON value. -/
def ofJson? (j : Json) : Option OperationKind := j.caseName?.bind ofText?

/-- The name of a kind is read back. -/
@[simp] theorem ofText?_text (kind : OperationKind) : ofText? kind.text = some kind := by
  cases kind <;> rfl

end OperationKind

/-- Why a reference gives no outcome to repeat. -/
inductive CompletionError where
  /-- The completion kept under the reference cannot be read. -/
  | unreadable (reference : String)
  /-- The entry under the reference carries no completion. -/
  | taken (reference : String)
  /-- The reference was first used for an operation of another kind. -/
  | kindMismatch (reference : String) (expected found : OperationKind)
  /-- The reference was first used for another request. -/
  | fingerprintMismatch (reference : String)
  deriving DecidableEq, Repr

namespace CompletionError

/-- What is wrong with the reference. -/
def message : CompletionError → String
  | .unreadable _ => "Failed to decode idempotency record"
  | .taken reference => "Reference " ++ reference ++ " is already used by another ledger entry"
  | .kindMismatch reference expected found =>
    "Reference " ++ reference ++ " was first used for a " ++ found.text ++ ", not a " ++
      expected.text
  | .fingerprintMismatch reference =>
    "Reference " ++ reference ++ " was first used with a different request"

/-- Whether the reference belongs to a different request. -/
def isConflict : CompletionError → Bool
  | .unreadable _ => false
  | _ => true

end CompletionError

/-- What a completed operation leaves behind. -/
structure Completion where
  /-- What the operation did. -/
  kind : OperationKind
  /-- What its request is recognised by. -/
  fingerprint : Fingerprint
  /-- Its outcome. -/
  outcome : Json
  /-- Who asked for it. -/
  context : Context
  /-- When it was done. -/
  recorded : Instant
  deriving BEq

namespace Completion

/-- A completion as a JSON value. -/
def toJson (c : Completion) : Json :=
  .obj [("kind", c.kind.toJson), ("fingerprint", c.fingerprint.toJson), ("outcome", c.outcome),
    ("context", c.context.toJson), ("recorded_at", c.recorded.toJson)]

/-- A context that may be absent but not `null`. -/
def contextField? : Option Json → Option Context
  | none => some {}
  | some j => Context.ofJson? j

/-- Reads a completion from a JSON value. -/
def ofJson? (j : Json) : Option Completion := do
  match ← j.fields? ["kind", "fingerprint", "outcome", "context", "recorded_at"] with
  | [kind, fingerprint, outcome, context, recorded] =>
    pure
      { kind := ← Json.required? OperationKind.ofJson? kind
        fingerprint := ← Json.required? Fingerprint.read? fingerprint
        outcome := ← Json.required? Json.value? outcome
        context := ← contextField? context
        recorded := ← Json.required? Instant.ofJson? recorded }
  | _ => none

/-- A completion as the metadata of an entry. -/
def toMetadata (c : Completion) : Json := c.toJson.canonical

/-- The completion of metadata found under a reference. Metadata without a fingerprint was written
for something else. -/
def ofMetadata (reference : String) (metadata : Option Json) :
    Except CompletionError Completion :=
  match metadata with
  | none => .error (.taken reference)
  | some j =>
    if (j.get? "fingerprint").isNone then .error (.taken reference)
    else match ofJson? j with
      | some c => .ok c
      | none => .error (.unreadable reference)

/-- The completion that the entry under a reference carries. -/
def ofEntry (reference : String) (entry : Entry) : Except CompletionError Completion :=
  ofMetadata reference entry.metadata

/-- Whether a request is the one that was completed under the reference. The kind is looked at
first. -/
def verify (c : Completion) (reference : String) (kind : OperationKind)
    (fingerprint : Fingerprint) : Except CompletionError Unit :=
  if c.kind ≠ kind then .error (.kindMismatch reference kind c.kind)
  else if c.fingerprint ≠ fingerprint then .error (.fingerprintMismatch reference)
  else .ok ()

/-- The outcome that was kept. -/
def outcomeAs (c : Completion) (read : Json → Option α) (reference : String) :
    Except CompletionError α :=
  match read c.outcome with
  | some a => .ok a
  | none => .error (.unreadable reference)

end Completion

end CurrencyLedger
