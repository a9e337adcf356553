import GuestBridge.Main
import GuestBridge.Workbench.Bench
import GuestBridge.Proofs.Arguments.Precedence
import GuestBridge.Proofs.Calls.Delivery
import GuestBridge.Proofs.CommandLine.Grammar
import GuestBridge.Proofs.CommandLine.Run
import GuestBridge.Proofs.Dictionary.Whole
import GuestBridge.Proofs.Interpreter.Directories
import GuestBridge.Proofs.Mappings.Lookup
import GuestBridge.Proofs.Modules.Importing
import GuestBridge.Proofs.Modules.Stable
import GuestBridge.Proofs.Numbers.Exact
import GuestBridge.Proofs.Numbers.Ranges
import GuestBridge.Proofs.Process.Capture
import GuestBridge.Proofs.Process.Exclusion
import GuestBridge.Proofs.Process.Isolation
import GuestBridge.Proofs.Process.Output
import GuestBridge.Proofs.Process.Reclaim
import GuestBridge.Proofs.Process.SearchPath
import GuestBridge.Proofs.Process.Service
import GuestBridge.Proofs.Process.Setbacks
import GuestBridge.Proofs.Process.Shutdown
import GuestBridge.Proofs.Process.Stopping
import GuestBridge.Proofs.Process.Strangers
import GuestBridge.Proofs.Requests.Rendering
import GuestBridge.Proofs.RoundTrip.Trip
import GuestBridge.Proofs.Sending.Domain
import GuestBridge.Proofs.Sequences.Subscripts
import GuestBridge.Proofs.Views.Runs
import GuestBridge.Proofs.Widening.Reading
