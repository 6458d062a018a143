import EditGuard.Main
import EditGuard.Proofs.Command.CheckAgreement
import EditGuard.Proofs.Command.CompactOutput
import EditGuard.Proofs.Command.Configuration
import EditGuard.Proofs.Command.LostPayload
import EditGuard.Proofs.Command.PayloadFields
import EditGuard.Proofs.Command.StarterRun
import EditGuard.Proofs.Command.UsageFaults
import EditGuard.Proofs.Hook.SnippetHint
import EditGuard.Proofs.Imports.ImportClauses
import EditGuard.Proofs.Imports.ImportLines
import EditGuard.Proofs.Imports.Items
import EditGuard.Proofs.Imports.Semicolons
import EditGuard.Proofs.Imports.Soundness
import EditGuard.Proofs.Layers.Exactness
import EditGuard.Proofs.Layers.LiteralFragments
import EditGuard.Proofs.Layers.Ordering
import EditGuard.Proofs.Layers.Placement
import EditGuard.Proofs.Review.Approval
import EditGuard.Proofs.Review.CurrentStatus
import EditGuard.Proofs.Review.DocumentNames
import EditGuard.Proofs.Review.HintAgreement
import EditGuard.Proofs.Review.Manuscript
import EditGuard.Proofs.Review.MarkerSpan
import EditGuard.Proofs.Review.PhaseCredit
import EditGuard.Proofs.Text.LineIndex
