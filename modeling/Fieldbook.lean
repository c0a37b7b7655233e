import Fieldbook.Json.Model
import Fieldbook.View.Run
import Fieldbook.Proofs.Formula.SinglePass
import Fieldbook.Proofs.Dependency.Edges
import Fieldbook.Proofs.Dependency.Rounds
import Fieldbook.Proofs.Dependency.Order
import Fieldbook.Proofs.Calculation.Phases
import Fieldbook.Proofs.Formula.References
import Fieldbook.Proofs.Formula.Analysis
import Fieldbook.Proofs.Formula.Accepted
import Fieldbook.Proofs.Calculation.Finished
import Fieldbook.Proofs.Calculation.Influence
import Fieldbook.Proofs.Calculation.Leftover
import Fieldbook.Proofs.View.Result
import Fieldbook.Proofs.Dependency.Cycles
import Fieldbook.Proofs.View.StableSort
import Fieldbook.Proofs.Calculation.Solution
import Fieldbook.Proofs.Calculation.Reordering
import Fieldbook.Proofs.Calculation.Recalculation
import Fieldbook.Proofs.Number.Rounding
import Fieldbook.Proofs.Number.Written
import Fieldbook.Proofs.Formula.ScanParts
import Fieldbook.Proofs.Formula.TokenText
import Fieldbook.Proofs.View.Conditions
import Fieldbook.Proofs.Storage.Registries
import Fieldbook.Proofs.Time.Calendar
import Fieldbook.Proofs.Time.StoredText
import Fieldbook.Proofs.Storage.StoredForm
import Fieldbook.Proofs.Text.Order
import Fieldbook.Proofs.Formula.ByteScan
import Fieldbook.Proofs.Formula.ScanFailure
import Fieldbook.Proofs.Formula.FirstFailure
import Fieldbook.Proofs.Formula.Passes
import Fieldbook.Proofs.Formula.Height
import Fieldbook.Proofs.View.Partition
import Fieldbook.Proofs.View.EmptyKeys
import Fieldbook.Proofs.Text.Lowering
import Fieldbook.Proofs.View.Verbatim
import Fieldbook.Proofs.View.SuccessiveSorts
import Fieldbook.Proofs.View.ShownFields
import Fieldbook.Proofs.Calculation.FollowedLinks
import Fieldbook.Proofs.Dependency.Worklist
import Fieldbook.Proofs.Formula.TokenOrder
import Fieldbook.Proofs.Text.Uppering
import Fieldbook.Proofs.Formula.ByName
import Fieldbook.Proofs.Formula.KnownFunctions
import Fieldbook.Proofs.Number.Order
import Fieldbook.Proofs.View.NumberKeys
import Fieldbook.Proofs.View.Thresholds
import Fieldbook.Proofs.Calculation.Recount
import Fieldbook.Proofs.Time.ShownText
import Fieldbook.Proofs.Number.Accuracy
import Fieldbook.Proofs.Time.WholeDays
import Fieldbook.Proofs.Aggregation.Percent
import Fieldbook.Proofs.Aggregation.Extremes
import Fieldbook.Proofs.View.NumberTexts
import Fieldbook.Proofs.Number.PowersOfTen
import Fieldbook.Proofs.Number.WholeRounding
