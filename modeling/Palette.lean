import Palette.Command.Json
import Palette.Diagnostic
import Palette.Grammar
import Palette.Journal
import Palette.Steps
import Palette.Proofs.Agreement
import Palette.Proofs.Offsets
import Palette.Proofs.Carets
import Palette.Proofs.Classification
import Palette.Proofs.Coordinates
import Palette.Proofs.Decoding
import Palette.Proofs.Decomposition
import Palette.Proofs.Places
import Palette.Proofs.Exactness
import Palette.Proofs.Excerpts
import Palette.Proofs.Spelling
import Palette.Proofs.Joins
import Palette.Proofs.Letters
import Palette.Proofs.Locality
import Palette.Proofs.Lockstep
import Palette.Proofs.Misfits
import Palette.Proofs.Notes
import Palette.Proofs.Quoting
import Palette.Proofs.Respelling
import Palette.Proofs.Recognition
import Palette.Proofs.Records
import Palette.Proofs.Repairs
import Palette.Proofs.Segments
import Palette.Proofs.Slices
import Palette.Proofs.Spacing
import Palette.Proofs.Strides
import Palette.Proofs.Telling
import Palette.Proofs.Writing
