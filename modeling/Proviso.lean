import Proviso.Check.Arithmetic
import Proviso.Check.Probe
import Proviso.Json.Parser
import Proviso.Pattern.Cache
import Proviso.Proofs.Draft.Canonical
import Proviso.Proofs.Draft.Conjunction
import Proviso.Proofs.Draft.Depth
import Proviso.Proofs.Draft.Leaves
import Proviso.Proofs.Draft.Nest
import Proviso.Proofs.Draft.Positions
import Proviso.Proofs.Draft.Regrouping
import Proviso.Proofs.Instruction.Flat
import Proviso.Proofs.Instruction.Nodes
import Proviso.Proofs.Report.Consistent
import Proviso.Proofs.Report.Finding
import Proviso.Proofs.Report.Known
import Proviso.Proofs.Report.Surface
import Proviso.Provider
import Proviso.Registry.Builtin
import Proviso.Proofs.Json.Magnitude
import Proviso.Proofs.Json.Content
import Proviso.Proofs.Instruction.Respect
import Proviso.Proofs.Instruction.Phrase
import Proviso.Proofs.Instruction.Unambiguous
import Proviso.Proofs.Instruction.Extension
import Proviso.Proofs.Report.Invocations
import Proviso.Proofs.Report.Split
import Proviso.Proofs.Report.Vacuous
import Proviso.Proofs.Check.Arguments
import Proviso.Proofs.Report.Literal
import Proviso.Proofs.Draft.Spelling
import Proviso.Proofs.Draft.Rewrapping
import Proviso.Proofs.Report.Dangling
import Proviso.Proofs.Instruction.Recased
import Proviso.Proofs.Instruction.Simplification
import Proviso.Proofs.Pattern.Reuse
import Proviso.Proofs.Text.Excerpt
