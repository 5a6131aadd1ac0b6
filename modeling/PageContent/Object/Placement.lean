import PageContent.Geometry.Flip
import PageContent.Library.Edit

namespace PageContent

variable {σ : Type} [Library σ]

def readPageHeight (page : PageId) : Edit σ Float32 := demand .getPageHeight (.pageHeight page)

/-- The library tells an object's local bounds only while its transform is the identity. The identity is
put in for as long as that takes, and the transform is put back whether or not bounds were told. -/
def readDeviceMatrix (object : ObjectId) (page : PageId) : Edit σ (Matrix Float32) := do
  let height ← readPageHeight page
  let raw ← demand .getMatrix (.matrix object)
  insist .resetMatrix (.setMatrix object .identity)
  let bounds ← ask (.bounds object)
  insist .restoreMatrix (.setMatrix object raw)
  match bounds with
  | some bounds => pure (deviceMatrix raw bounds height)
  | none => throw (.refused .getBounds)

def writeDeviceMatrix (object : ObjectId) (page : PageId) (device : Matrix Float32) : Edit σ Unit := do
  let height ← readPageHeight page
  let raw ← demand .getMatrix (.matrix object)
  insist .resetMatrix (.setMatrix object .identity)
  match ← ask (.bounds object) with
  | some bounds => (placement device bounds height).forM fun step => ask (.transform object step)
  | none => do
    let _ ← ask (.setMatrix object raw)
    throw (.refused .getBounds)

end PageContent
