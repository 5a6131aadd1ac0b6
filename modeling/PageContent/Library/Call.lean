import PageContent.Library.Handles
import PageContent.Library.Kinds
import PageContent.Geometry.Matrix
import PageContent.Geometry.Quad
import PageContent.Bitmap.Basic

namespace PageContent

structure StoredSegment where
  kind : SegmentKind
  x : Float32
  y : Float32
  closed : Bool
  deriving DecidableEq

/-- Pixels as the library reports them, before anything about them is checked. -/
structure RawBitmap where
  width : Nat
  height : Nat
  stride : Nat
  code : Int
  data : List UInt8
  deriving DecidableEq

def Bitmap.toRaw (bitmap : Bitmap) : RawBitmap :=
  ⟨bitmap.width, bitmap.height, bitmap.stride, bitmap.format.code, bitmap.data⟩

/-- What an object library can be asked, with the type of its answer. Strings are read into a buffer of
units: the answer is the length of the string, its final zero included, and the buffer afterwards. -/
inductive Call : Type → Type
  | pageHeight (page : PageId) : Call (Option Float32)
  | objectCount (page : PageId) : Call (Option Nat)
  | objectAt (page : PageId) (index : Nat) : Call (Option ObjectId)
  | insertObject (page : PageId) (object : ObjectId) : Call Bool
  | detachObject (page : PageId) (object : ObjectId) : Call Bool
  | generateContent (page : PageId) : Call Bool
  | destroyObject (object : ObjectId) : Call Unit
  | objectKind (object : ObjectId) : Call ObjectKind
  | matrix (object : ObjectId) : Call (Option (Matrix Float32))
  | setMatrix (object : ObjectId) (matrix : Matrix Float32) : Call Bool
  | transform (object : ObjectId) (matrix : Matrix Float32) : Call Unit
  | bounds (object : ObjectId) : Call (Option (Rect .page Float32))
  | color (object : ObjectId) (paint : Paint) : Call (Option Color)
  | setColor (object : ObjectId) (paint : Paint) (color : Color) : Call Bool
  | strokeWidth (object : ObjectId) : Call (Option Float32)
  | setStrokeWidth (object : ObjectId) (width : Float32) : Call Bool
  | createPath (x y : Float32) : Call (Option ObjectId)
  | addSegment (object : ObjectId) (command : PathCommand) (x y : Float32) : Call Bool
  | closePath (object : ObjectId) : Call Bool
  | segmentCount (object : ObjectId) : Call (Option Nat)
  | segmentAt (object : ObjectId) (index : Nat) : Call (Option StoredSegment)
  | drawMode (object : ObjectId) : Call (Option DrawMode)
  | setDrawMode (object : ObjectId) (mode : DrawMode) : Call Bool
  | createImage (document : DocumentId) : Call (Option ObjectId)
  | bitmap (object : ObjectId) : Call (Option RawBitmap)
  | setBitmap (object : ObjectId) (bitmap : Bitmap) : Call Bool
  | loadFont (document : DocumentId) (name : String) : Call (Option FontId)
  | createText (document : DocumentId) (font : FontId) (size : Float32) : Call (Option ObjectId)
  | font (object : ObjectId) : Call (Option FontId)
  | fontName (font : FontId) : Call (Option String)
  | fontSize (object : ObjectId) : Call (Option Float32)
  | text (object : ObjectId) (page : PageId) (buffer : List UInt16) : Call (Nat × List UInt16)
  | setText (object : ObjectId) (units : List UInt16) : Call Bool
  | renderMode (object : ObjectId) : Call (Option Int)
  | setRenderMode (object : ObjectId) (code : Int) : Call Bool
  | annotCount (page : PageId) : Call (Option Nat)
  | annotAt (page : PageId) (index : Nat) : Call (Option AnnotId)
  | createAnnot (page : PageId) (kind : AnnotKind) : Call (Option AnnotId)
  | removeAnnot (page : PageId) (index : Nat) : Call Bool
  | annotIndex (page : PageId) (annot : AnnotId) : Call (Option Nat)
  | annotKind (annot : AnnotId) : Call AnnotKind
  | annotRect (annot : AnnotId) : Call (Option (Rect .page Float32))
  | setAnnotRect (annot : AnnotId) (rect : Rect .page Float32) : Call Bool
  | embeddedCount (annot : AnnotId) : Call (Option Nat)
  | embeddedAt (annot : AnnotId) (index : Nat) : Call (Option ObjectId)
  | embed (annot : AnnotId) (object : ObjectId) : Call Bool
  | removeEmbedded (annot : AnnotId) (index : Nat) : Call Bool
  | quadCount (annot : AnnotId) : Call Nat
  | quadAt (annot : AnnotId) (index : Nat) : Call (Option (Quad Float32))
  | setQuad (annot : AnnotId) (index : Nat) (quad : Quad Float32) : Call Bool
  | appendQuad (annot : AnnotId) (quad : Quad Float32) : Call Bool
  | removesQuads : Call Bool
  | removeQuad (annot : AnnotId) (index : Nat) : Call Bool
  | annotString (annot : AnnotId) (key : String) (buffer : List UInt16) : Call (Nat × List UInt16)
  | setAnnotString (annot : AnnotId) (key : String) (units : List UInt16) : Call Bool
  | annotColor (annot : AnnotId) (role : ColorRole) : Call (Option Color)
  | setAnnotColor (annot : AnnotId) (role : ColorRole) (color : Color) : Call Bool

def Call.refused : {α : Type} → Call α → α
  | _, .pageHeight .. => none
  | _, .objectCount .. => none
  | _, .objectAt .. => none
  | _, .insertObject .. => false
  | _, .detachObject .. => false
  | _, .generateContent .. => false
  | _, .destroyObject .. => ()
  | _, .objectKind .. => .unknown
  | _, .matrix .. => none
  | _, .setMatrix .. => false
  | _, .transform .. => ()
  | _, .bounds .. => none
  | _, .color .. => none
  | _, .setColor .. => false
  | _, .strokeWidth .. => none
  | _, .setStrokeWidth .. => false
  | _, .createPath .. => none
  | _, .addSegment .. => false
  | _, .closePath .. => false
  | _, .segmentCount .. => none
  | _, .segmentAt .. => none
  | _, .drawMode .. => none
  | _, .setDrawMode .. => false
  | _, .createImage .. => none
  | _, .bitmap .. => none
  | _, .setBitmap .. => false
  | _, .loadFont .. => none
  | _, .createText .. => none
  | _, .font .. => none
  | _, .fontName .. => none
  | _, .fontSize .. => none
  | _, .text _ _ buffer => (0, buffer)
  | _, .setText .. => false
  | _, .renderMode .. => none
  | _, .setRenderMode .. => false
  | _, .annotCount .. => none
  | _, .annotAt .. => none
  | _, .createAnnot .. => none
  | _, .removeAnnot .. => false
  | _, .annotIndex .. => none
  | _, .annotKind .. => .unknown
  | _, .annotRect .. => none
  | _, .setAnnotRect .. => false
  | _, .embeddedCount .. => none
  | _, .embeddedAt .. => none
  | _, .embed .. => false
  | _, .removeEmbedded .. => false
  | _, .quadCount .. => 0
  | _, .quadAt .. => none
  | _, .setQuad .. => false
  | _, .appendQuad .. => false
  | _, .removesQuads => false
  | _, .removeQuad .. => false
  | _, .annotString _ _ buffer => (0, buffer)
  | _, .setAnnotString .. => false
  | _, .annotColor .. => none
  | _, .setAnnotColor .. => false

end PageContent
