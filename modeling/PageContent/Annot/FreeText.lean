import PageContent.Annot.Stamp

namespace PageContent.FreeText

variable {σ : Type} [Library σ]

def contentsKey : String := "Contents"

/-- A note without contents is an error, while contents without units are an empty note. -/
def read (annot : AnnotId) : Edit σ FreeText := do
  expectAnnotKind annot .freeText
  let bounds ← readAnnotRect annot
  let units ← readUnits (.annotString annot contentsKey) .missingContents (.refused .getContents)
  let textColor ← demand .getAnnotColor (.annotColor annot .color)
  let backgroundColor ← demand .getAnnotColor (.annotColor annot .interior)
  pure { bounds, text := Utf16.toText units, textColor, backgroundColor }

def update (note : FreeText) (annot : AnnotId) : Edit σ Unit := do
  expectAnnotKind annot .freeText
  writeAnnotRect annot note.bounds
  insist .setContents (.setAnnotString annot contentsKey (Utf16.ofText note.text))
  insist .setTextColor (.setAnnotColor annot .color note.textColor)
  insist .setBackgroundColor (.setAnnotColor annot .interior note.backgroundColor)

end PageContent.FreeText
