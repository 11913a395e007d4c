import TicketGate.Config.Dotenv
import TicketGate.Proofs.Authorization
import TicketGate.Proofs.Cancellation
import TicketGate.Proofs.Operations
import TicketGate.Proofs.Positions
import TicketGate.Proofs.Compact
import TicketGate.Proofs.Messages
import TicketGate.Proofs.RemovalOutcome
import TicketGate.Proofs.Transfer
import TicketGate.Proofs.Connections
import TicketGate.Proofs.Closing
import TicketGate.Proofs.Leaks
import TicketGate.Proofs.Expiry
import TicketGate.Proofs.Ledger
import TicketGate.Proofs.Rejection
import TicketGate.Proofs.Snapshot
import TicketGate.Proofs.Simultaneous
import TicketGate.Proofs.Signals
import TicketGate.Proofs.Isolation
import TicketGate.Proofs.Insertion
import TicketGate.Proofs.Canonical
import TicketGate.Proofs.Size
import TicketGate.Proofs.Numeral
import TicketGate.Proofs.Precedence
