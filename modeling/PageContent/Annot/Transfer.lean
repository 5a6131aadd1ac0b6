import PageContent.Annot.FreeText
import PageContent.Annot.Highlight

namespace PageContent.Annot

variable {σ : Type} [Library σ]

/-- Reads an annotation of one of the kinds that pages are edited with, and fails on one of another kind
than the one asked for. -/
def readAs (kind : AnnotKind) (annot : AnnotId) (page : PageRef) : Edit σ Annot :=
  match kind with
  | .stamp => .stamp <$> Stamp.read annot page
  | .highlight => .highlight <$> Highlight.read annot
  | .freeText => .freeText <$> FreeText.read annot
  | other => throw (.unsupportedAnnot other)

def read (annot : AnnotId) (page : PageRef) : Edit σ Annot := do
  readAs (← ask (.annotKind annot)) annot page

def update (a : Annot) (annot : AnnotId) (page : PageRef) (config : EditConfig) : Edit σ Unit :=
  match a with
  | .stamp s => s.update annot page
  | .highlight h => h.update annot config
  | .freeText note => note.update annot

def discard (annot : AnnotId) (page : PageRef) : Edit σ Unit := do
  match ← ask (.annotIndex page.page annot) with
  | some index => let _ ← ask (.removeAnnot page.page index)
  | none => pure ()

/-- A new annotation like `a` at the end of the page. It is taken off the page again when it cannot be
finished. -/
def create (a : Annot) (page : PageRef) (config : EditConfig) : Edit σ AnnotId := do
  let annot ← demand .createAnnot (.createAnnot page.page a.kind)
  orUndo (a.update annot page config) (discard annot page)
  pure annot

end PageContent.Annot
