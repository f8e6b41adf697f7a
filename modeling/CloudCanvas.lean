import CloudCanvas.Command.Execution
import CloudCanvas.Command.LogFormat
import CloudCanvas.Main
import CloudCanvas.Proofs.Hcl.Block
import CloudCanvas.Proofs.Naming.Cache
import CloudCanvas.Proofs.Naming.Identifier
import CloudCanvas.Proofs.Naming.Normal
import CloudCanvas.Proofs.Hcl.Layout
import CloudCanvas.Proofs.Emission.Declaration
import CloudCanvas.Proofs.Generation.Run
import CloudCanvas.Proofs.Generation.Dependency
import CloudCanvas.Proofs.Generation.Layout
import CloudCanvas.Proofs.Generation.Accounting
import CloudCanvas.Proofs.Generation.RepeatedIds
import CloudCanvas.Proofs.Compliance.Emission
import CloudCanvas.Proofs.Generation.Address
import CloudCanvas.Proofs.Compliance.Mismatch
import CloudCanvas.Proofs.Generation.Skipping
import CloudCanvas.Proofs.Command.Execution
import CloudCanvas.Proofs.Command.Strict
import CloudCanvas.Proofs.Compliance.Screening
import CloudCanvas.Proofs.Generation.Union
import CloudCanvas.Proofs.Command.Destination
import CloudCanvas.Proofs.Graph.Decoding
import CloudCanvas.Proofs.Generation.Editing
import CloudCanvas.Proofs.Generation.EdgeDetails
import CloudCanvas.Proofs.Generation.Trace
import CloudCanvas.Proofs.Graph.Least
import CloudCanvas.Proofs.Graph.Saving
import CloudCanvas.Proofs.Command.Format
import CloudCanvas.Proofs.Naming.Gaps
import CloudCanvas.Proofs.Hcl.Replacement
import CloudCanvas.Proofs.Hcl.Scanner
import CloudCanvas.Proofs.Emission.Typed
import CloudCanvas.Proofs.Emission.Firewall
import CloudCanvas.Proofs.Compliance.Promise
import CloudCanvas.Proofs.Command.Tags
import CloudCanvas.Proofs.Emission.Bucket
import CloudCanvas.Proofs.Emission.KeyTable
import CloudCanvas.Proofs.Generation.Validation
import CloudCanvas.Proofs.Graph.Stages
import CloudCanvas.Proofs.Generation.Naming
