import Storyline.Document.Resolved
import Storyline.Document.Source
import Storyline.Order
import Storyline.Proofs.DeclarationOrder
import Storyline.Proofs.FailureReports
import Storyline.Proofs.FaultText
import Storyline.Proofs.FirstViolation
import Storyline.Proofs.Independence
import Storyline.Proofs.LogForm
import Storyline.Proofs.Policy
import Storyline.Proofs.ReadBack
import Storyline.Proofs.Rearrangement
import Storyline.Proofs.Renaming
import Storyline.Proofs.ScopeParts
import Storyline.Proofs.SharedLog
import Storyline.Proofs.SpanCover
import Storyline.Proofs.StoredForm
import Storyline.Proofs.Trace
import Storyline.Proofs.TypeRefinement
import Storyline.Trace
