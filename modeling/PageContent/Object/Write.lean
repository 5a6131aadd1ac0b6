import PageContent.Object.Read

namespace PageContent

variable {σ : Type} [Library σ]

def Attributes.writeStyle (a : Attributes) (object : ObjectId) : Edit σ Unit := do
  insist .setStrokeWidth (.setStrokeWidth object a.strokeWidth)
  insist .setStrokeColor (.setColor object .stroke a.strokeColor)
  insist .setFillColor (.setColor object .fill a.fillColor)

namespace Content

def drawMode (fill stroke : Bool) : DrawMode := ⟨if fill then .winding else .none, stroke⟩

/-- Writes what can be changed of an object's content: neither the segments of a path nor the font of a
text. -/
def write (content : Content) (object : ObjectId) : Edit σ Unit :=
  match content with
  | .path _ fill stroke => insist .setDrawMode (.setDrawMode object (drawMode fill stroke))
  | .image bitmap => insist .setBitmap (.setBitmap object bitmap)
  | .text string _ _ mode => do
    if string.isEmpty then throw .emptyText
    insist .setText (.setText object (Utf16.ofText string))
    insist .setRenderMode (.setRenderMode object mode.code)

def closeIf (object : ObjectId) (s : Segment) : Edit σ Unit :=
  if s.closed then insist .closePath (.closePath object) else pure ()

def addSegment (object : ObjectId) (s : Segment) : Edit σ Unit := do
  insist .addSegment (.addSegment object s.command s.x s.y)
  closeIf object s

/-- A new path starts with a point of its own, so the first segment is a move whatever its command. -/
def allocatePath : List Segment → Edit σ ObjectId
  | [] => throw .emptyPath
  | first :: rest => do
    let object ← demand .createPath (.createPath first.x first.y)
    orUndo (do closeIf object first; rest.forM (addSegment object)) (ask (.destroyObject object))
    pure object

/-- A new detached object. Of its content it has only what can never be changed later. -/
def allocate (content : Content) (document : DocumentId) : Edit σ ObjectId :=
  match content with
  | .path segments _ _ => allocatePath segments
  | .image _ => demand .createImage (.createImage document)
  | .text _ font size _ => do
    let id ← demand .loadFont (.loadFont document font.name)
    demand .createText (.createText document id size)

end Content

namespace PageObject

/-- The transform is written last, since it depends on the bounds of what was written before. -/
def update (o : PageObject) (object : ObjectId) (page : PageRef) : Edit σ Unit := do
  expectKind object o.kind
  o.content.write object
  o.attributes.writeStyle object
  writeDeviceMatrix object page.page o.attributes.deviceMatrix

/-- A new detached object like `o`. Nothing is left behind when it cannot be finished. -/
def create (o : PageObject) (page : PageRef) : Edit σ ObjectId := do
  let object ← o.content.allocate page.document
  orUndo (o.update object page) (ask (.destroyObject object))
  pure object

end PageObject

end PageContent
