import DepositGate.Config.Load
import DepositGate.Gateway.Run
import DepositGate.Main
import DepositGate.Scenario
import DepositGate.Proofs.Budget.Block
import DepositGate.Proofs.Outcome
import DepositGate.Proofs.SortedMap
import DepositGate.Proofs.Budget.Epoch
import DepositGate.Proofs.Budget.Transaction
import DepositGate.Proofs.Gateway.Effect
import DepositGate.Proofs.Gateway.Run
import DepositGate.Proofs.Gateway.Draw
import DepositGate.Proofs.Gateway.Counts
import DepositGate.Proofs.Gateway.BlockHistory
import DepositGate.Proofs.Gateway.EpochHistory
import DepositGate.Proofs.Gateway.Configured
import DepositGate.Proofs.Gateway.Conservation
import DepositGate.Proofs.Gateway.Preview
import DepositGate.Proofs.Gateway.Rules
import DepositGate.Proofs.Gateway.Traceless
import DepositGate.Proofs.Budget.Staging
import DepositGate.Proofs.Config.Thresholds
import DepositGate.Proofs.Config.ThresholdLists
import DepositGate.Proofs.Config.AmountTexts
import DepositGate.Proofs.Json.WrittenText
import DepositGate.Proofs.Json.Reader
import DepositGate.Proofs.Config.Options
import DepositGate.Proofs.Config.Agreement
import DepositGate.Proofs.Config.Valid
import DepositGate.Proofs.Gateway.Isolation
import DepositGate.Proofs.Gateway.Commutation
import DepositGate.Proofs.Gateway.Pause
import DepositGate.Proofs.Gateway.Settings
import DepositGate.Proofs.Gateway.RateWindow
import DepositGate.Proofs.Gateway.Faultless
import DepositGate.Proofs.Json.WrittenForms
import DepositGate.Proofs.Json.RoundTrip
import DepositGate.Proofs.Scenario
import DepositGate.Proofs.Price.Window
import DepositGate.Proofs.Price.Exponent
import DepositGate.Proofs.Caps
import DepositGate.Gateway.Fleet
import DepositGate.Proofs.Binary64
import DepositGate.Proofs.Gateway.Tallies
import DepositGate.Proofs.Gateway.Accounting
import DepositGate.Proofs.Vault.AllOrNothing
import DepositGate.Proofs.Caps.NativeBounds
import DepositGate.Proofs.Request.Conservation
import DepositGate.Proofs.Price.Splitting
import DepositGate.Proofs.Budget.Usage
import DepositGate.Proofs.Usd.Scales
import DepositGate.Proofs.Usd.Written
import DepositGate.Proofs.Text.HexDigits
import DepositGate.Proofs.Identity
import DepositGate.Proofs.Text.AssetTexts
import DepositGate.Proofs.Usd.Dollars
