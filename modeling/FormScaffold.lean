import FormScaffold.Files.Tree
import FormScaffold.Main
import FormScaffold.Proofs.Arrangement
import FormScaffold.Proofs.Artifact.Bindings
import FormScaffold.Proofs.Artifact.Closed
import FormScaffold.Proofs.Artifact.Disjoint
import FormScaffold.Proofs.Artifact.Elements
import FormScaffold.Proofs.Artifact.Features
import FormScaffold.Proofs.Artifact.Installed
import FormScaffold.Proofs.Artifact.LineEnds
import FormScaffold.Proofs.Artifact.Regenerated
import FormScaffold.Proofs.Artifact.Written
import FormScaffold.Proofs.Code.Reread
import FormScaffold.Proofs.Constraint.Grammar
import FormScaffold.Proofs.Form.Asked
import FormScaffold.Proofs.Form.Reported
import FormScaffold.Proofs.Markup.Elements
import FormScaffold.Proofs.Naming.Import
import FormScaffold.Proofs.Script.Syntax
import FormScaffold.Proofs.Session.Repeated
import FormScaffold.Proofs.Snapshot.Converted
import FormScaffold.Proofs.Snapshot.Found
import FormScaffold.Proofs.Snapshot.Rearranged
import FormScaffold.Proofs.Snapshot.Recovered
import FormScaffold.Proofs.Script.Run
import FormScaffold.Proofs.Submission.Source
import FormScaffold.Proofs.Submission.Handler
import FormScaffold.Proofs.Version.Precedence
