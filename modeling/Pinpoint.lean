import Pinpoint.Main
import Pinpoint.Proofs.Check.Outputs
import Pinpoint.Proofs.Document.Endings
import Pinpoint.Proofs.Document.Offsets
import Pinpoint.Proofs.Editor.Overlap
import Pinpoint.Proofs.Identifier.Cuts
import Pinpoint.Proofs.Identifier.Renaming
import Pinpoint.Proofs.Line.Complement
import Pinpoint.Proofs.Linter.Discovery
import Pinpoint.Proofs.Lookup.Alignment
import Pinpoint.Proofs.Pattern.WholeOccurrences
import Pinpoint.Proofs.Report.Noise
import Pinpoint.Proofs.Rule.Messages
import Pinpoint.Proofs.Settings.Shapes
