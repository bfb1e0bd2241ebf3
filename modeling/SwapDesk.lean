import SwapDesk.Converter
import SwapDesk.Form.ActionJson
import SwapDesk.Form.Check
import SwapDesk.Main
import SwapDesk.Program.Basic
import SwapDesk.Proofs.Amount.RoundTrip
import SwapDesk.Proofs.Form.Amounts
import SwapDesk.Proofs.Session.CreatePool
import SwapDesk.Rpc.Basic
import SwapDesk.Session.Script
import SwapDesk.Proofs.Session.Requests
import SwapDesk.Proofs.Session.Operation
import SwapDesk.Proofs.Session.Accepted
import SwapDesk.Proofs.Session.Permitted
import SwapDesk.Proofs.Session.TwoSided
import SwapDesk.Proofs.Form.Balances
import SwapDesk.Proofs.Amount.Canonical
import SwapDesk.Proofs.Json.Number
import SwapDesk.Proofs.Json.Quoted
import SwapDesk.Proofs.Json.RoundTrip
import SwapDesk.Proofs.Json.Faithful
import SwapDesk.Proofs.Form.Snapshot
import SwapDesk.Proofs.Json.FreeForm
import SwapDesk.Proofs.Call.Intent
import SwapDesk.Proofs.Session.Agreement
import SwapDesk.Proofs.Decimal.Shortest
import SwapDesk.Proofs.Session.Ready
import SwapDesk.Proofs.Json.Text
import SwapDesk.Proofs.Rpc.Reply
import SwapDesk.Proofs.Json.Literal
import SwapDesk.Proofs.Session.Amounts
import SwapDesk.Proofs.Text.Base64
import SwapDesk.Proofs.Rpc.Body
import SwapDesk.Proofs.Form.Settled
import SwapDesk.Proofs.Form.Allowances
import SwapDesk.Proofs.Session.Account
import SwapDesk.Proofs.Session.Spelling
import SwapDesk.Proofs.Form.Parts
import SwapDesk.Proofs.Form.Status
import SwapDesk.Proofs.Form.Approval
import SwapDesk.Proofs.Form.Arrivals
import SwapDesk.Proofs.Amount.Refusal
import SwapDesk.Proofs.Converter
import SwapDesk.Proofs.Session.Purchase
import SwapDesk.Proofs.Settings.Toml
import SwapDesk.Proofs.Settings.Ini
import SwapDesk.Proofs.Settings.Ron
import SwapDesk.Proofs.Settings.Json5
import SwapDesk.Proofs.Settings.Yaml
import SwapDesk.Proofs.Settings.Layers
import SwapDesk.Proofs.Decimal.Significant
import SwapDesk.Proofs.Amount.Display
import SwapDesk.Proofs.Amount.Truncation
import SwapDesk.Proofs.Session.PoolOutcome
import SwapDesk.Proofs.Form.Switch
import SwapDesk.Proofs.Amount.Zero
import SwapDesk.Proofs.Session.Quotes
import SwapDesk.Proofs.Rpc.Balance
