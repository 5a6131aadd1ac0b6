import PageContent.Annot.Basic
import PageContent.Object.Write

namespace PageContent

variable {σ : Type} [Library σ]

def expectAnnotKind (annot : AnnotId) (expected : AnnotKind) : Edit σ Unit := do
  let found ← ask (.annotKind annot)
  if found ≠ expected then throw (.annotMismatch expected found)

def readAnnotRect (annot : AnnotId) : Edit σ (Rect .page Float32) :=
  demand .getAnnotRect (.annotRect annot)

def writeAnnotRect (annot : AnnotId) (rect : Rect .page Float32) : Edit σ Unit :=
  insist .setAnnotRect (.setAnnotRect annot rect)

namespace Stamp

def readSlot (annot : AnnotId) (page : PageRef) (index : Nat) : Edit σ (Option PageObject) := do
  match ← ask (.embeddedAt annot index) with
  | none => pure none
  | some object =>
    if admits (← ask (.objectKind object)) then slot? (PageObject.read object page) else pure none

def read (annot : AnnotId) (page : PageRef) : Edit σ Stamp := do
  expectAnnotKind annot .stamp
  let bounds ← readAnnotRect annot
  let count ← demand .getEmbeddedCount (.embeddedCount annot)
  let slots ← (List.range count).mapM (readSlot annot page)
  pure { bounds, slots }

/-- Objects of a kind that stamps do not hold stay where they are. -/
def removeKnown (annot : AnnotId) (index : Nat) : Edit σ Unit := do
  match ← ask (.embeddedAt annot index) with
  | none => pure ()
  | some object =>
    if admits (← ask (.objectKind object)) then insist .removeEmbedded (.removeEmbedded annot index)

def appendSlot (annot : AnnotId) (page : PageRef) : Option PageObject → Edit σ Unit
  | none => pure ()
  | some o => do
    if !admits o.kind then throw (.unsupportedInStamp o.kind)
    let object ← o.create page
    unless ← ask (.embed annot object) do
      ask (.destroyObject object)
      throw (.refused .embedObject)

/-- Replaces the paths and images in the annotation, from the last to the first, by new ones. -/
def update (s : Stamp) (annot : AnnotId) (page : PageRef) : Edit σ Unit := do
  expectAnnotKind annot .stamp
  writeAnnotRect annot s.bounds
  let count ← demand .getEmbeddedCount (.embeddedCount annot)
  (List.range count).reverse.forM (removeKnown annot)
  s.slots.forM (appendSlot annot page)

end Stamp

end PageContent
