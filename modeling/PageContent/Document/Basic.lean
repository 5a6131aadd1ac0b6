import PageContent.Document.Table
import PageContent.Library.Call
import PageContent.Text.Utf16

namespace PageContent

/-- The calls that a document can be told to refuse. -/
inductive FailPoint
  | createPath
  | createImage
  | createText
  | createAnnot
  | setBitmap
  | setMatrix
  | getBounds
  | setStrokeWidth
  | insertObject
  | embedObject
  | setAnnotColor
  | loadFont
  deriving DecidableEq

inductive StoredContent
  | path (segments : List StoredSegment) (mode : DrawMode)
  | image (bitmap : Option RawBitmap)
  | text (font : FontId) (size : Float32) (units : List UInt16) (renderMode : Int)
  | shading

namespace StoredContent

def kind : StoredContent → ObjectKind
  | .path .. => .path
  | .image .. => .image
  | .text .. => .text
  | .shading => .shading

/-- The points whose images span the object: those of a path, or the corners of a box. An image fills the
unit square, and a text is as high as its font and half as wide as that for each unit. -/
def localPoints : StoredContent → List (Float32 × Float32)
  | .path segments _ => segments.map fun s => (s.x, s.y)
  | .image _ | .shading => [(0, 0), (1, 0), (0, 1), (1, 1)]
  | .text _ size units _ =>
    let width := Float32.ofNat (Utf16.body units).length * size * 0.5
    [(0, 0), (width, 0), (0, size), (width, size)]

def segments? : StoredContent → Option (List StoredSegment)
  | .path segments _ => some segments
  | _ => none

def setSegments? (segments : List StoredSegment) : StoredContent → Option StoredContent
  | .path _ mode => some (.path segments mode)
  | _ => none

def drawMode? : StoredContent → Option DrawMode
  | .path _ mode => some mode
  | _ => none

def setDrawMode? (mode : DrawMode) : StoredContent → Option StoredContent
  | .path segments _ => some (.path segments mode)
  | _ => none

def bitmap? : StoredContent → Option RawBitmap
  | .image bitmap => bitmap
  | _ => none

def setBitmap? (bitmap : Option RawBitmap) : StoredContent → Option StoredContent
  | .image _ => some (.image bitmap)
  | _ => none

def font? : StoredContent → Option FontId
  | .text font _ _ _ => some font
  | _ => none

def fontSize? : StoredContent → Option Float32
  | .text _ size _ _ => some size
  | _ => none

def units? : StoredContent → Option (List UInt16)
  | .text _ _ units _ => some units
  | _ => none

def setUnits? (units : List UInt16) : StoredContent → Option StoredContent
  | .text font size _ mode => some (.text font size (Utf16.terminated units) mode)
  | _ => none

def renderMode? : StoredContent → Option Int
  | .text _ _ _ mode => some mode
  | _ => none

def setRenderMode? (mode : Int) : StoredContent → Option StoredContent
  | .text font size units _ => some (.text font size units mode)
  | _ => none

end StoredContent

structure StoredObject where
  content : StoredContent
  matrix : Matrix Float32
  fill : Color
  stroke : Color
  strokeWidth : Float32

namespace StoredObject

def new (content : StoredContent) : StoredObject := ⟨content, .identity, .black, .black, 1⟩

def bounds? (o : StoredObject) : Option (Rect .page Float32) :=
  Rect.hull? (o.content.localPoints.map fun p => .ofPoint (o.matrix.apply p.1 p.2))

def color (o : StoredObject) : Paint → Color
  | .fill => o.fill
  | .stroke => o.stroke

def setColor (o : StoredObject) (c : Color) : Paint → StoredObject
  | .fill => { o with fill := c }
  | .stroke => { o with stroke := c }

end StoredObject

structure StoredAnnot where
  kind : AnnotKind
  rect : Option (Rect .page Float32)
  objects : List ObjectId
  quads : List (Quad Float32)
  strings : Table String (List UInt16)
  color : Option Color
  interior : Option Color

namespace StoredAnnot

def new (kind : AnnotKind) : StoredAnnot := ⟨kind, none, [], [], .empty, none, none⟩

/-- The rectangle of an annotation with quads follows those of them that are not zero. -/
def setQuads (a : StoredAnnot) (quads : List (Quad Float32)) : StoredAnnot :=
  { a with quads, rect := Rect.hull? ((quads.filter (!·.isZero)).map (·.bounds)) }

def colorOf (a : StoredAnnot) : ColorRole → Option Color
  | .color => a.color
  | .interior => a.interior

def setColor (a : StoredAnnot) (c : Color) : ColorRole → StoredAnnot
  | .color => { a with color := some c }
  | .interior => { a with interior := some c }

end StoredAnnot

structure Page where
  height : Float32
  objects : List ObjectId
  annots : List AnnotId
  /-- How often the content was generated. -/
  generations : Nat

/-- An object library in memory. Pages and annotations list the objects they hold; an object that
nothing holds is detached and belongs to whoever asked for it. -/
structure Document where
  /-- The last handle that was given out, of whatever kind. -/
  issued : Nat
  pages : Table PageId Page
  objects : Table ObjectId StoredObject
  annots : Table AnnotId StoredAnnot
  fonts : Table FontId String
  failing : List FailPoint
  removesQuads : Bool

namespace Document

def empty (removesQuads : Bool) : Document := ⟨0, .empty, .empty, .empty, .empty, [], removesQuads⟩

def isAttached (d : Document) (object : ObjectId) : Bool :=
  d.pages.values.any (·.objects.contains object) || d.annots.values.any (·.objects.contains object)

def isLive (d : Document) (object : ObjectId) : Bool := d.objects.contains object

def liveCount (d : Document) : Nat := d.objects.size

def generations (d : Document) (page : PageId) : Nat :=
  (d.pages.get? page).elim 0 (·.generations)

/-! Changes which are refused by giving no document. -/

def changePage (d : Document) (page : PageId) (f : Page → Option Page) : Option Document := do
  let p ← f (← d.pages.get? page)
  pure { d with pages := d.pages.insert page p }

def changeObject (d : Document) (object : ObjectId) (f : StoredObject → Option StoredObject) :
    Option Document := do
  let o ← f (← d.objects.get? object)
  pure { d with objects := d.objects.insert object o }

def changeContent (d : Document) (object : ObjectId) (f : StoredContent → Option StoredContent) :
    Option Document :=
  d.changeObject object fun o => do
    let content ← f o.content
    pure { o with content }

def changeSegments (d : Document) (object : ObjectId)
    (f : List StoredSegment → Option (List StoredSegment)) : Option Document :=
  d.changeContent object fun content => do content.setSegments? (← f (← content.segments?))

def changeAnnot (d : Document) (annot : AnnotId) (f : StoredAnnot → Option StoredAnnot) :
    Option Document := do
  let a ← f (← d.annots.get? annot)
  pure { d with annots := d.annots.insert annot a }

def createObject (d : Document) (content : StoredContent) : ObjectId × Document :=
  let object : ObjectId := ⟨d.issued + 1⟩
  (object, { d with issued := d.issued + 1, objects := d.objects.insert object (.new content) })

def insertObject (d : Document) (page : PageId) (object : ObjectId) : Option Document :=
  if d.isLive object && !d.isAttached object then
    d.changePage page fun p => some { p with objects := p.objects ++ [object] }
  else none

def detachObject (d : Document) (page : PageId) (object : ObjectId) : Option Document :=
  d.changePage page fun p =>
    if object ∈ p.objects then some { p with objects := p.objects.erase object } else none

/-- Only a detached object is destroyed. -/
def destroyObject (d : Document) (object : ObjectId) : Document :=
  if d.isAttached object then d else { d with objects := d.objects.erase object }

def createAnnot (d : Document) (page : PageId) (kind : AnnotKind) : Option (AnnotId × Document) := do
  let annot : AnnotId := ⟨d.issued + 1⟩
  let d' ← d.changePage page fun p => some { p with annots := p.annots ++ [annot] }
  pure (annot, { d' with issued := d.issued + 1, annots := d.annots.insert annot (.new kind) })

/-- The objects in an annotation go with it. -/
def releaseAnnot (d : Document) (annot : AnnotId) : Document :=
  match d.annots.get? annot with
  | none => d
  | some a => { d with annots := d.annots.erase annot, objects := a.objects.foldl Table.erase d.objects }

def removeAnnot (d : Document) (page : PageId) (index : Nat) : Option Document := do
  let p ← d.pages.get? page
  let annot ← p.annots[index]?
  let d' ← d.changePage page fun p => some { p with annots := p.annots.eraseIdx index }
  pure (d'.releaseAnnot annot)

def embedObject (d : Document) (annot : AnnotId) (object : ObjectId) : Option Document :=
  if d.isLive object && !d.isAttached object then
    d.changeAnnot annot fun a => some { a with objects := a.objects ++ [object] }
  else none

def removeEmbedded (d : Document) (annot : AnnotId) (index : Nat) : Option Document := do
  let a ← d.annots.get? annot
  let object ← a.objects[index]?
  let d' ← d.changeAnnot annot fun a => some { a with objects := a.objects.eraseIdx index }
  pure { d' with objects := d'.objects.erase object }

def changeQuads (d : Document) (annot : AnnotId)
    (f : List (Quad Float32) → Option (List (Quad Float32))) : Option Document :=
  d.changeAnnot annot fun a => (f a.quads).map a.setQuads

/-! Changes which no call of a library asks for. -/

def createDocument (d : Document) : DocumentId × Document :=
  (⟨d.issued + 1⟩, { d with issued := d.issued + 1 })

def addPage (d : Document) (height : Float32) : PageId × Document :=
  let page : PageId := ⟨d.issued + 1⟩
  (page, { d with issued := d.issued + 1, pages := d.pages.insert page ⟨height, [], [], 0⟩ })

def failOn (d : Document) (point : FailPoint) : Document := { d with failing := point :: d.failing }

def clearFailures (d : Document) : Document := { d with failing := [] }

def createShading (d : Document) : ObjectId × Document := d.createObject .shading

/-- A cubic curve is kept as three segments, one for each of its points. -/
def addBezier (d : Document) (object : ObjectId) (points : List (Float32 × Float32)) : Option Document :=
  d.changeSegments object fun segments =>
    some (segments ++ points.map fun p => ⟨.bezierTo, p.1, p.2, false⟩)

def replaceBitmap (d : Document) (object : ObjectId) (bitmap : Option RawBitmap) : Option Document :=
  d.changeContent object (·.setBitmap? bitmap)

def clearString (d : Document) (annot : AnnotId) (key : String) : Option Document :=
  d.changeAnnot annot fun a =>
    if a.strings.contains key then some { a with strings := a.strings.erase key } else none

end Document

end PageContent
