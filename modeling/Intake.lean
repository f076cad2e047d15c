import Intake.Main
import Intake.CommandLine.Folder
import Intake.Proofs.CommandLine.Outcome
import Intake.Proofs.Clause.Rendering
import Intake.Proofs.Expr.Literals
import Intake.Proofs.BindingList.Calls
import Intake.Proofs.Document
import Intake.Proofs.CommandLine.Limit
import Intake.Proofs.Submission.ExplicitNulls
import Intake.Proofs.FaultCategory
import Intake.Proofs.Diagnostic.Builder
import Intake.Proofs.Diagnostic.Retelling
import Intake.Proofs.CommandLine.Escapes
