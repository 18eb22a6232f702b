import TapeMachine.CommandLine.Execute
import TapeMachine.CommandLine.Usage
import TapeMachine.Log.JournalKey
import TapeMachine.Machine.View
import TapeMachine.Main
import TapeMachine.Proofs.Loops.Faults
import TapeMachine.Proofs.Snapshot.Resume
import TapeMachine.Proofs.Structured.Refinement
import TapeMachine.Proofs.Tape.Memory
import TapeMachine.Proofs.Machine.Limits
import TapeMachine.Proofs.Snapshot.Safety
import TapeMachine.Proofs.Machine.Exhaustion
import TapeMachine.Proofs.Machine.Drive
import TapeMachine.Proofs.Comments.Irrelevance
import TapeMachine.Proofs.Machine.Symmetry
import TapeMachine.Proofs.Snapshot.Failure
import TapeMachine.Proofs.Snapshot.Atomicity
import TapeMachine.Proofs.CommandLine.Composition
import TapeMachine.Proofs.Cbor.Delimiting
import TapeMachine.Proofs.Snapshot.Delimiting
import TapeMachine.Proofs.Snapshot.Canonical
import TapeMachine.Proofs.CommandLine.Declaration
import TapeMachine.Proofs.CommandLine.FlagValues
import TapeMachine.Proofs.Settings.Documents
import TapeMachine.Proofs.Settings.Effective
import TapeMachine.Proofs.Machine.Extent
import TapeMachine.Proofs.Loops.Skipping
import TapeMachine.Proofs.Snapshot.Skipping
import TapeMachine.Proofs.CommandLine.Integers
import TapeMachine.Proofs.CommandLine.Listing
import TapeMachine.Proofs.Tape.Ranges
import TapeMachine.Proofs.Network.Fetching
import TapeMachine.Proofs.Shell.KeyForms
import TapeMachine.Proofs.Shell.Dictionaries
import TapeMachine.Proofs.Shell.Conversion
import TapeMachine.Proofs.Shell.Images
import TapeMachine.Proofs.Loops.Landing
import TapeMachine.Proofs.Tape.Growing
import TapeMachine.Proofs.Network.Routing
