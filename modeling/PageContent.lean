import PageContent.Geometry.Flip
import PageContent.Geometry.Quad
import PageContent.Bitmap.Basic
import PageContent.Text.Font
import PageContent.Text.Utf16
import PageContent.Document.Perform
import PageContent.Editor
import PageContent.Library.Faults
import PageContent.Json.Form
import PageContent.Proofs.Change
import PageContent.Proofs.Sound
import PageContent.Proofs.Run
import PageContent.Proofs.Ends
import PageContent.Proofs.Footprint
import PageContent.Proofs.Touch
import PageContent.Proofs.Creation
import PageContent.Proofs.Editing
import PageContent.Proofs.Rollback
import PageContent.Proofs.Leaks
import PageContent.Proofs.Lists
import PageContent.Proofs.Placing
import PageContent.Proofs.Reading
import PageContent.Proofs.Showing
import PageContent.Proofs.Spelling
import PageContent.Proofs.Pixels
import PageContent.Proofs.Writing
import PageContent.Proofs.RoundTrip
import PageContent.Proofs.Coherence
import PageContent.Proofs.Highlights
import PageContent.Proofs.Making
import PageContent.Proofs.Rebuilding
import PageContent.Proofs.Painting
import PageContent.Proofs.Slices
import PageContent.Proofs.Mirror
import PageContent.Proofs.Confinement
import PageContent.Proofs.Rewriting
import PageContent.Proofs.Unmodified
import PageContent.Proofs.Rows
import PageContent.Proofs.Exchange
import PageContent.Proofs.Overwriting
import PageContent.Proofs.Surrogates
import PageContent.Proofs.Notes
import PageContent.Proofs.Emptiness
import PageContent.Proofs.Rejections
import PageContent.Proofs.Composition
import PageContent.Proofs.Locality
import PageContent.Proofs.FloatOrder
import PageContent.Proofs.Tightness
