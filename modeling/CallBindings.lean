import CallBindings.CommandLine.Command
import CallBindings.Main
import CallBindings.Proofs.Module.Bindings
import CallBindings.Proofs.Module.Scope
import CallBindings.Proofs.Shape.Grammar
import CallBindings.Proofs.Url.Resolution
import CallBindings.Transport.Exchange
import CallBindings.Proofs.Shape.Offences
import CallBindings.Proofs.Json.Quoted
import CallBindings.Proofs.Json.Halves
import CallBindings.Proofs.Contract.Joined
import CallBindings.Proofs.Module.Layout
import CallBindings.Proofs.Contract.Grammar
import CallBindings.Proofs.Contract.Accepted
import CallBindings.Proofs.Contract.Batch
import CallBindings.Proofs.Dispatch.Calls
import CallBindings.Proofs.Dispatch.Echo
import CallBindings.Proofs.Module.Attributes
import CallBindings.Proofs.Generation.Run
import CallBindings.Proofs.Json.Names
import CallBindings.Proofs.Json.Decoded
import CallBindings.Proofs.Settings.Validate
import CallBindings.Proofs.Transport.Registry
import CallBindings.Proofs.Settings.Layers
import CallBindings.Proofs.Logging.Setup
import CallBindings.Proofs.Url.Query
import CallBindings.Proofs.Url.Seams
import CallBindings.Proofs.Dispatch.Address
import CallBindings.Proofs.Dispatch.Headers
import CallBindings.Proofs.Transport.Exchange
import CallBindings.Proofs.Contract.Faults
import CallBindings.Proofs.Generation.Trace
import CallBindings.Proofs.Settings.Modes
import CallBindings.Proofs.Settings.Settled
import CallBindings.Proofs.Generation.Discovery
import CallBindings.Proofs.Files.Literal
