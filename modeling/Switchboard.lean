import Switchboard.Main
import Switchboard.Bench.Desk
import Switchboard.Bench.Flags
import Switchboard.Bench.Handles
import Switchboard.Bench.Probe
import Switchboard.Proofs.Names
import Switchboard.Proofs.Distinct
import Switchboard.Proofs.Table.Calls
import Switchboard.Proofs.Table.History
import Switchboard.Proofs.Table.LastBinding
import Switchboard.Proofs.Table.Queries
import Switchboard.Proofs.Table.Completion
import Switchboard.Proofs.Table.Events
import Switchboard.Proofs.Declared
import Switchboard.Proofs.Delivery
import Switchboard.Proofs.Session.Frame
import Switchboard.Proofs.Session.Typed
import Switchboard.Proofs.Session.Isolation
import Switchboard.Proofs.Session.Foreign
import Switchboard.Proofs.Console.Lines
import Switchboard.Proofs.Console.Sharing
import Switchboard.Proofs.Console.Wiring
import Switchboard.Proofs.Console.Native
import Switchboard.Proofs.Console.Failures
import Switchboard.Proofs.Table.Refusals
import Switchboard.Proofs.Greeting.Bindings
import Switchboard.Proofs.Greeting.Runs
import Switchboard.Proofs.Greeting.Accounting
import Switchboard.Proofs.Decoding
import Switchboard.Proofs.Console.Contents
import Switchboard.Proofs.Console.Capabilities
import Switchboard.Proofs.Table.Reordering
import Switchboard.Proofs.Table.Unsigned
import Switchboard.Proofs.Table.TypeNames
import Switchboard.Proofs.Console.Rewiring
