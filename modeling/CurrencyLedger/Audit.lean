import CurrencyLedger.Operation.Script

/-! # Reconciliation

Every balance has to be what the entries of its account add up to, and not negative. A report lists
where this does not hold. -/

namespace CurrencyLedger.Audit

/-- An account whose balance is not what its entries add up to. -/
structure Discrepancy where
  /-- The account. -/
  account : Account
  /-- Its balance, zero if it has none. -/
  balance : Int
  /-- What its entries add up to, zero if it has none. -/
  total : Int
  deriving DecidableEq, Repr

namespace Discrepancy

/-- By how much the balance is greater. -/
def difference (d : Discrepancy) : Int := d.balance - d.total

/-- A discrepancy as a JSON value. -/
def toJson (d : Discrepancy) : Json :=
  .obj [("key", d.account.toJson), ("balance", .int d.balance), ("ledger_total", .int d.total)]

end Discrepancy

/-- What a reconciliation found. -/
structure Report where
  /-- How many balances were looked at. -/
  checked : Nat := 0
  /-- Where balance and entries differ, in the order of accounts. -/
  discrepancies : List Discrepancy := []
  /-- The balances below zero. -/
  negatives : List Holding := []
  deriving DecidableEq, Repr

namespace Report

/-- Whether nothing was found. -/
def isConsistent (r : Report) : Bool := r.discrepancies.isEmpty && r.negatives.isEmpty

/-- A report as a JSON value. -/
def toJson (r : Report) : Json :=
  .obj [("balances_checked", .int r.checked),
    ("discrepancies", .arr (r.discrepancies.map Discrepancy.toJson)),
    ("negative_balances", .arr (r.negatives.map Holding.toJson))]

end Report

/-- Compares balances one by one with the totals of their accounts; the totals that no balance asked
for are left over. -/
def compareAll : List Holding → Table Account Int → List Discrepancy × Table Account Int
  | [], totals => ([], totals)
  | holding :: holdings, totals =>
    let total := (totals.get? holding.account).getD 0
    let rest := compareAll holdings (totals.erase holding.account)
    (if holding.amount = total then rest.1
      else ⟨holding.account, holding.amount, total⟩ :: rest.1, rest.2)

/-- The discrepancies of accounts without a balance. -/
def orphans (totals : Table Account Int) : List Discrepancy :=
  (totals.rows.filter (·.2 ≠ 0)).map fun row => ⟨row.1, 0, row.2⟩

/-- Compares balances with totals. -/
def build (holdings : List Holding) (totals : List (Account × Int)) : Report :=
  let compared := compareAll holdings (Table.ofList totals)
  { checked := holdings.length
    discrepancies := (compared.1 ++ orphans compared.2).mergeSort fun a b =>
      (compare a.account b.account).isLE
    negatives := holdings.filter (·.amount < 0) }

/-- Compares what is published: first the balances are read, then the entries. -/
def reconcile : Operation Report := do
  let holdings ← Operation.ask .allHoldings
  let totals ← Operation.ask .totals
  pure (build holdings totals)

end CurrencyLedger.Audit
