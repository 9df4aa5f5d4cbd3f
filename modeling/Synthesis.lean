import Synthesis.Rule.Debug
import Synthesis.Session
import Synthesis.Session.Setup
import Synthesis.Settings.Loader
import Synthesis.Term.Literal
import Synthesis.Proofs.Knots
import Synthesis.Proofs.Reentrance
import Synthesis.Proofs.Typing
import Synthesis.Proofs.Marks
import Synthesis.Proofs.Determined
import Synthesis.Proofs.Matching
import Synthesis.Proofs.Unifiers
import Synthesis.Proofs.Derivations
import Synthesis.Proofs.Sharing
import Synthesis.Proofs.Afresh
import Synthesis.Proofs.Contents
import Synthesis.Proofs.Recomputation
import Synthesis.Proofs.Transparency
import Synthesis.Proofs.Bindings
import Synthesis.Proofs.Freshness
import Synthesis.Proofs.Renaming
import Synthesis.Proofs.Restamping
import Synthesis.Proofs.Tying
import Synthesis.Proofs.Accumulation
import Synthesis.Proofs.DepthLimit
import Synthesis.Proofs.FiniteGoals
import Synthesis.Proofs.Reading
import Synthesis.Proofs.Coherence
import Synthesis.Proofs.Fatality
import Synthesis.Proofs.Declining
import Synthesis.Proofs.Rendering
import Synthesis.Proofs.Ascent
import Synthesis.Proofs.Layers
import Synthesis.Proofs.Usable
import Synthesis.Proofs.Descent
import Synthesis.Proofs.Slots
import Synthesis.Proofs.Locality
import Synthesis.Proofs.Lineages
import Synthesis.Proofs.Discovery
import Synthesis.Proofs.Specificity
import Synthesis.Proofs.Refusals
import Synthesis.Proofs.Clashes
import Synthesis.Proofs.Quiet
import Synthesis.Proofs.Occurrences
import Synthesis.Proofs.Transcripts
