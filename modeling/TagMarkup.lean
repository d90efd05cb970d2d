import TagMarkup.Main
import TagMarkup.Proofs.Binary64
import TagMarkup.Proofs.Number
import TagMarkup.Proofs.Characters
import TagMarkup.Proofs.Spelling
import TagMarkup.Proofs.Reading
import TagMarkup.Proofs.Stream
import TagMarkup.Proofs.Tiling
import TagMarkup.Proofs.Linearisation
import TagMarkup.Proofs.Steps
import TagMarkup.Proofs.Grammar
import TagMarkup.Proofs.Rejection
import TagMarkup.Proofs.WellFormed
import TagMarkup.Proofs.Rendering
import TagMarkup.Proofs.RoundTrip
import TagMarkup.Proofs.LoopBounds
import TagMarkup.Proofs.Sameness
import TagMarkup.Proofs.Construction
import TagMarkup.Proofs.Offsets
import TagMarkup.Proofs.Seam
import TagMarkup.Proofs.Relocation
import TagMarkup.Proofs.Concatenation
import TagMarkup.Proofs.ImplicitClose
import TagMarkup.Proofs.Requests
import TagMarkup.Proofs.Nodes
import TagMarkup.Proofs.Pulling
import TagMarkup.Proofs.LoopTags
import TagMarkup.Proofs.LoopEvents
import TagMarkup.Proofs.Conversation
import TagMarkup.Proofs.Outcomes
import TagMarkup.Proofs.Agreement
import TagMarkup.Proofs.Faults
import TagMarkup.Proofs.Blame
import TagMarkup.Proofs.Brackets
import TagMarkup.Proofs.Enclosure
import TagMarkup.Proofs.Lookahead
import TagMarkup.Proofs.Displacement
import TagMarkup.Proofs.Separation
import TagMarkup.Proofs.Outline
import TagMarkup.Proofs.Diagnostics
import TagMarkup.Proofs.InStep
import TagMarkup.Proofs.Delimiting
import TagMarkup.Proofs.Scientific
import TagMarkup.Proofs.Listing
import TagMarkup.Proofs.Rounding
import TagMarkup.Proofs.Literal
import TagMarkup.Proofs.LetterCase
