import CurrencyLedger.Main
import CurrencyLedger.Simulation.Session
import CurrencyLedger.Proofs.World.Balanced
import CurrencyLedger.Proofs.World.Serial
import CurrencyLedger.Proofs.World.Duplicate
import CurrencyLedger.Proofs.Conversion
import CurrencyLedger.Proofs.Conversion.Bounds
import CurrencyLedger.Proofs.Amount
import CurrencyLedger.Proofs.Audit.Report
import CurrencyLedger.Proofs.World.Traffic
import CurrencyLedger.Proofs.World.Undisturbed
import CurrencyLedger.Proofs.World.Requests
import CurrencyLedger.Proofs.World.Stages
import CurrencyLedger.Proofs.World.Reuse
import CurrencyLedger.Proofs.World.Audited
import CurrencyLedger.Proofs.Units.Entries
import CurrencyLedger.Proofs.World.Counted
import CurrencyLedger.Proofs.World.Named
import CurrencyLedger.Proofs.World.Transfers
import CurrencyLedger.Proofs.World.Decided
import CurrencyLedger.Proofs.World.Adjustments
import CurrencyLedger.Proofs.Rates.Text
import CurrencyLedger.Proofs.Conversion.Return
import CurrencyLedger.Proofs.Retry
import CurrencyLedger.Proofs.World.Pages
import CurrencyLedger.Proofs.Units.Locking
import CurrencyLedger.Proofs.Units.Changes
import CurrencyLedger.Proofs.Balance
