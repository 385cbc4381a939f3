import StaleBuild.Main
import StaleBuild.Proofs.Layers
import StaleBuild.Proofs.ProjectRoot
import StaleBuild.Proofs.Prediction
import StaleBuild.Proofs.Nesting
import StaleBuild.Proofs.Stopping
import StaleBuild.Proofs.PackageLine
import StaleBuild.Proofs.Checkout
import StaleBuild.Proofs.SourceKinds
import StaleBuild.Proofs.Tracing
import StaleBuild.Proofs.Usability
import StaleBuild.Proofs.GivenFile
import StaleBuild.Proofs.Files.Chains
import StaleBuild.Proofs.OutputNames
import StaleBuild.Proofs.LastCount
import StaleBuild.Proofs.Acceptance
import StaleBuild.Proofs.Shadowing
