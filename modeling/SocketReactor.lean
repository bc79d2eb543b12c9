import SocketReactor.Text.Quoted
import SocketReactor.Endpoint.Wire
import SocketReactor.Protocol
import SocketReactor.Fault.Report
import SocketReactor.OpSet
import SocketReactor.Setup.Builder
import SocketReactor.Transfer
import SocketReactor.Lookup
import SocketReactor.Isolated.Machine
import SocketReactor.Socket.Lifecycle
import SocketReactor.Handle.Rack
import SocketReactor.Selector.Registration
import SocketReactor.Selector.Poll
import SocketReactor.Reactor.Sockets
import SocketReactor.Session.Run
import SocketReactor.Proofs.Host.Kernel
import SocketReactor.Proofs.Selector.Phases
import SocketReactor.Proofs.Selector.Polls
import SocketReactor.Proofs.Selector.Bookkeeping
import SocketReactor.Proofs.Selector.Actions
import SocketReactor.Proofs.Handle.Failures
import SocketReactor.Proofs.Handle.Rack
import SocketReactor.Proofs.Socket.Footprint
import SocketReactor.Proofs.Owner.Gains
import SocketReactor.Proofs.Reactor.Outcomes
import SocketReactor.Proofs.Reactor.Moves
import SocketReactor.Proofs.Reactor.Links
import SocketReactor.Proofs.Reactor.Lineage
import SocketReactor.Proofs.Selector.Reports
import SocketReactor.Proofs.Selector.Gathering
import SocketReactor.Proofs.Selector.Reckoning
import SocketReactor.Proofs.Reactor.Readiness
import SocketReactor.Proofs.Host.Sparing
import SocketReactor.Proofs.Selector.Watching
import SocketReactor.Proofs.Reactor.Accounts
import SocketReactor.Proofs.Reactor.Coherence
import SocketReactor.Proofs.Reactor.Agreement
import SocketReactor.Proofs.Selector.Pipes
import SocketReactor.Proofs.Selector.Interplay
import SocketReactor.Proofs.Selector.Wakeups
import SocketReactor.Proofs.Selector.Teardown
import SocketReactor.Proofs.Selector.Shutdown
import SocketReactor.Proofs.Reactor.Refusals
import SocketReactor.Proofs.Reactor.Slots
import SocketReactor.Proofs.Reactor.Registrations
import SocketReactor.Proofs.Endpoint.RoundTrip
import SocketReactor.Proofs.Host.Ledger
import SocketReactor.Proofs.Host.Custody
import SocketReactor.Proofs.Host.Balance
import SocketReactor.Proofs.Socket.Turns
import SocketReactor.Proofs.Socket.Standing
import SocketReactor.Proofs.Socket.Refinement
import SocketReactor.Proofs.Socket.Halves
import SocketReactor.Proofs.Selector.Custody
import SocketReactor.Proofs.Reactor.Owners
import SocketReactor.Proofs.Reactor.Balance
import SocketReactor.Proofs.Reactor.Custody
import SocketReactor.Proofs.Reactor.Halves
import SocketReactor.Proofs.Text.Numerals
import SocketReactor.Proofs.Address.Grammar
import SocketReactor.Proofs.Endpoint.Grammar
import SocketReactor.Proofs.Endpoint.Text
import SocketReactor.Proofs.Reactor.Closing
import SocketReactor.Proofs.Reactor.Polling
import SocketReactor.Proofs.Owner.Roles
import SocketReactor.Proofs.Reactor.Roles
import SocketReactor.Proofs.Setup.Connecting
import SocketReactor.Proofs.Socket.Waiting
import SocketReactor.Proofs.Socket.Intake
import SocketReactor.Proofs.Setup.Building
import SocketReactor.Proofs.Address.Canonical
import SocketReactor.Proofs.Endpoint.Decoding
import SocketReactor.Proofs.Reactor.Belated
import SocketReactor.Proofs.Reactor.Pending
import SocketReactor.Proofs.Address.Lookup
import SocketReactor.Proofs.Setup.Narrowing
import SocketReactor.Proofs.Host.Inflow
import SocketReactor.Proofs.Socket.Calls
import SocketReactor.Proofs.Socket.Hearing
import SocketReactor.Proofs.Host.Flags
import SocketReactor.Proofs.Socket.Flags
import SocketReactor.Proofs.Reactor.Promptness
import SocketReactor.Proofs.Fault.Frames
import SocketReactor.Proofs.Host.Words
import SocketReactor.Proofs.Socket.OptionValues
import SocketReactor.Proofs.Selector.Limits
