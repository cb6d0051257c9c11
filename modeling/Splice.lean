import Splice.Main
import Splice.Builder.Session
import Splice.Proofs.Pool.Lookup
import Splice.Proofs.Pool.Walk
import Splice.Proofs.Pool.Building
import Splice.Proofs.Pool.Linking
import Splice.Proofs.Pool.Calls
import Splice.Proofs.Pool.Image
import Splice.Proofs.Pool.Resolution
import Splice.Proofs.Pool.Closure
import Splice.Proofs.Pool.History
import Splice.Proofs.Pool.Incremental
import Splice.Proofs.Effect
import Splice.Proofs.Text.Substitute
import Splice.Proofs.Template
import Splice.Proofs.Builder.Stages
import Splice.Proofs.Builder.Override
import Splice.Proofs.Builder.Run
import Splice.Proofs.Plan
import Splice.Proofs.Plan.Closure
import Splice.Proofs.Config
import Splice.Proofs.Plan.Order
import Splice.Proofs.Builder.Delivery
import Splice.Proofs.Command
import Splice.Proofs.Builder.Accounting
import Splice.Proofs.Template.Pieces
import Splice.Proofs.Template.Refill
import Splice.Proofs.Method.Signature
import Splice.Proofs.Method.Distinct
import Splice.Proofs.Method.Capture
import Splice.Proofs.Builder.Reach
import Splice.Proofs.Resolution
import Splice.Proofs.Plan.Trace
import Splice.Proofs.Plan.Report
import Splice.Proofs.Command.Steps
import Splice.Proofs.Config.Discovery
import Splice.Proofs.Files.Path
import Splice.Proofs.Config.Nearest
import Splice.Proofs.Files.Tree
import Splice.Proofs.Config.Starter
