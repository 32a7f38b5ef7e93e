import DepositGate.Base58
import DepositGate.Coin
import DepositGate.CommandLine.Program
import DepositGate.Connection.Deadline
import DepositGate.Connection.Duplex
import DepositGate.Deposit.Backend
import DepositGate.Deposit.Pool
import DepositGate.Digest.Sha256
import DepositGate.FileTree
import DepositGate.Gate.Reply
import DepositGate.Gate.Bind
import DepositGate.Gate.RateLimit
import DepositGate.Gate.Router
import DepositGate.Json.Document
import DepositGate.Lifecycle.Session
import DepositGate.Main
import DepositGate.Proofs.Base58
import DepositGate.Proofs.Config.Agreement
import DepositGate.Proofs.Config.Consistent
import DepositGate.Proofs.Connection.Coupling
import DepositGate.Proofs.Connection.FirstEnd
import DepositGate.Proofs.Connection.Head
import DepositGate.Proofs.Connection.Pieces
import DepositGate.Proofs.Connection.ReadDeadline
import DepositGate.Proofs.Connection.StalledWrite
import DepositGate.Proofs.Connection.WriteBudget
import DepositGate.Proofs.Deposit.Allocation
import DepositGate.Proofs.Gate.Account
import DepositGate.Proofs.Gate.AllowList
import DepositGate.Proofs.Gate.BindChecks
import DepositGate.Proofs.Gate.Compression
import DepositGate.Proofs.Gate.Deposits
import DepositGate.Proofs.Gate.DistinctDeposits
import DepositGate.Proofs.Gate.Lookup
import DepositGate.Proofs.Gate.Peers
import DepositGate.Proofs.Gate.RateLimit
import DepositGate.Proofs.Gate.Redirect
import DepositGate.Proofs.Gate.Replies
import DepositGate.Proofs.Gate.Results
import DepositGate.Proofs.Gate.Security
import DepositGate.Proofs.Json.Data
import DepositGate.Proofs.Json.Numbers
import DepositGate.Proofs.Json.Parts
import DepositGate.Proofs.Json.Strings
import DepositGate.Proofs.Lifecycle.Cancellation
import DepositGate.Proofs.Lifecycle.Launch
import DepositGate.Proofs.Lifecycle.Overlap
import DepositGate.Proofs.Lifecycle.Phases
import DepositGate.Proofs.Lifecycle.Recovery
import DepositGate.Proofs.Lifecycle.Supervision
import DepositGate.Proofs.Message.RoundTrip
import DepositGate.Proofs.SkyAddress
