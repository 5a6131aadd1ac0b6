import PageContent.Object.Basic
import PageContent.Object.Placement
import PageContent.Text.Utf16

namespace PageContent

variable {σ : Type} [Library σ]

/-- Reads a string with two calls: the first asks for its length, the second fills a buffer of that
length and has to agree. -/
def readUnits (call : List UInt16 → Call (Nat × List UInt16)) (absent refused : Error) :
    Edit σ (List UInt16) := do
  let (length, _) ← ask (call [])
  if length = 0 then throw absent
  let (copied, units) ← ask (call (List.replicate length 0))
  if copied ≠ length then throw refused
  pure units

def expectKind (object : ObjectId) (expected : ObjectKind) : Edit σ Unit := do
  let found ← ask (.objectKind object)
  if found ≠ expected then throw (.kindMismatch expected found)

namespace Attributes

def read (object : ObjectId) (page : PageRef) : Edit σ Attributes := do
  let deviceMatrix ← readDeviceMatrix object page.page
  let fillColor ← demand .getFillColor (.color object .fill)
  let strokeColor ← demand .getStrokeColor (.color object .stroke)
  let strokeWidth ← demand .getStrokeWidth (.strokeWidth object)
  pure { deviceMatrix, fillColor, strokeColor, strokeWidth }

end Attributes

namespace Segment

def command? : SegmentKind → Option PathCommand
  | .moveTo => some .move
  | .lineTo => some .line
  | .bezierTo | .unknown => none

def read (object : ObjectId) (index : Nat) : Edit σ Segment := do
  let stored ← demand .getSegment (.segmentAt object index)
  match command? stored.kind with
  | some command => pure ⟨command, stored.x, stored.y, stored.closed⟩
  | none => throw (.unsupportedSegment index)

end Segment

namespace Content

def readPath (object : ObjectId) : Edit σ Content := do
  let count ← demand .getSegmentCount (.segmentCount object)
  if count = 0 then throw .emptyPath
  let segments ← (List.range count).mapM (Segment.read object)
  let mode ← demand .getDrawMode (.drawMode object)
  pure (.path segments (mode.fill ≠ .none) mode.stroke)

def readImage (object : ObjectId) : Edit σ Content := do
  let raw ← demand .getBitmap (.bitmap object)
  match PixelFormat.ofCode raw.code with
  | .unknown => throw (.unknownFormat raw.code)
  | format =>
    let bitmap ← liftExcept (Bitmap.ofBytes raw.width raw.height raw.stride format raw.data)
    pure (.image bitmap)

def readText (object : ObjectId) (page : PageRef) : Edit σ Content := do
  let id ← demand .getFont (.font object)
  let name ← demand .getFont (.fontName id)
  let font ← liftExcept (Font.ofName name)
  let size ← demand .getFontSize (.fontSize object)
  let units ← readUnits (.text object page.page) (.refused .getTextLength) (.refused .getText)
  let code ← demand .getRenderMode (.renderMode object)
  match RenderMode.ofCode? code with
  | some mode => pure (.text (Utf16.toText units) font size mode)
  | none => throw (.unknownRenderMode code)

end Content

namespace PageObject

def readAs (kind : ObjectKind) (object : ObjectId) (page : PageRef) : Edit σ PageObject := do
  expectKind object kind
  let content ← match kind with
    | .path => Content.readPath object
    | .image => Content.readImage object
    | .text => Content.readText object page
    | other => throw (.unsupportedObject other)
  let attributes ← Attributes.read object page
  pure { content, attributes }

def read (object : ObjectId) (page : PageRef) : Edit σ PageObject := do
  match ← ask (.objectKind object) with
  | .path => readAs .path object page
  | .image => readAs .image object page
  | .text => readAs .text object page
  | other => throw (.unsupportedObject other)

end PageObject

end PageContent
