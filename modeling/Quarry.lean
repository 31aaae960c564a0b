import Quarry.Proofs.Config
import Quarry.Proofs.Extractor
import Quarry.Proofs.Matcher.Captures
import Quarry.Proofs.Matcher.DeepMap
import Quarry.Proofs.Matcher.FlatMap
import Quarry.Proofs.Matcher.Numeric
import Quarry.Proofs.Matcher.RootQuery
import Quarry.Proofs.Matcher.SingleSide
import Quarry.Proofs.Path.Coercion
import Quarry.Proofs.Path.Record
import Quarry.Proofs.Path.Selection
import Quarry.Proofs.Path.Splice
import Quarry.Proofs.Query.Identity
