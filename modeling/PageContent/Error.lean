import PageContent.Library.Kinds

namespace PageContent

inductive Buffer
  | source
  | destination
  | bitmap
  deriving DecidableEq

def Buffer.name : Buffer → String
  | .source => "source"
  | .destination => "destination"
  | .bitmap => "bitmap"

inductive BitmapFault
  | rowOverflows (width : Nat)
  | strideTooShort (buffer : Buffer) (stride rowSize : Nat)
  | rowsOverflow (buffer : Buffer) (height stride : Nat)
  | bufferTooSmall (buffer : Buffer) (length required : Nat)
  | bitmapOverflows (width height : Nat)
  | rgbaOverflows (width height : Nat)
  deriving DecidableEq

def BitmapFault.message : BitmapFault → String
  | .rowOverflows width => s!"row of {width} pixels overflows"
  | .strideTooShort buffer stride rowSize =>
    s!"{buffer.name} stride {stride} shorter than row of {rowSize} bytes"
  | .rowsOverflow buffer height stride =>
    s!"{buffer.name} of {height} rows at stride {stride} overflows"
  | .bufferTooSmall buffer length required =>
    s!"{buffer.name} buffer too small: {length} bytes, need {required}"
  | .bitmapOverflows width height => s!"{width}x{height} bitmap overflows"
  | .rgbaOverflows width height => s!"{width}x{height} RGBA buffer overflows"

inductive Operation
  | getPageHeight
  | getObjectCount
  | getObject
  | insertObject
  | removeObject
  | generateContent
  | getMatrix
  | resetMatrix
  | restoreMatrix
  | getBounds
  | getFillColor
  | setFillColor
  | getStrokeColor
  | setStrokeColor
  | getStrokeWidth
  | setStrokeWidth
  | createPath
  | addSegment
  | closePath
  | getSegmentCount
  | getSegment
  | getDrawMode
  | setDrawMode
  | createImage
  | getBitmap
  | setBitmap
  | loadFont
  | createText
  | getFont
  | getFontSize
  | getTextLength
  | getText
  | setText
  | getRenderMode
  | setRenderMode
  | getAnnotCount
  | getAnnot
  | createAnnot
  | removeAnnot
  | getAnnotRect
  | setAnnotRect
  | getEmbeddedCount
  | embedObject
  | removeEmbedded
  | getQuad
  | setQuad
  | appendQuad
  | clearQuad
  | removeQuad
  | getAnnotColor
  | setAnnotColor
  | setTextColor
  | setBackgroundColor
  | getContents
  | setContents
  deriving DecidableEq

def Operation.description : Operation → String
  | .getPageHeight => "get page height"
  | .getObjectCount => "get page object count"
  | .getObject => "get page object"
  | .insertObject => "insert page object"
  | .removeObject => "remove page object"
  | .generateContent => "generate page content"
  | .getMatrix => "get object matrix"
  | .resetMatrix => "reset object matrix"
  | .restoreMatrix => "restore object matrix"
  | .getBounds => "get object bounds"
  | .getFillColor => "get fill color"
  | .setFillColor => "set fill color"
  | .getStrokeColor => "get stroke color"
  | .setStrokeColor => "set stroke color"
  | .getStrokeWidth => "get stroke width"
  | .setStrokeWidth => "set stroke width"
  | .createPath => "create path"
  | .addSegment => "add path segment"
  | .closePath => "close path"
  | .getSegmentCount => "get path segment count"
  | .getSegment => "get path segment"
  | .getDrawMode => "get path draw mode"
  | .setDrawMode => "set path draw mode"
  | .createImage => "create image"
  | .getBitmap => "get image bitmap"
  | .setBitmap => "set image bitmap"
  | .loadFont => "load standard font"
  | .createText => "create text"
  | .getFont => "get text font"
  | .getFontSize => "get font size"
  | .getTextLength => "get text length"
  | .getText => "get text"
  | .setText => "set text"
  | .getRenderMode => "get text render mode"
  | .setRenderMode => "set text render mode"
  | .getAnnotCount => "get annotation count"
  | .getAnnot => "get annotation"
  | .createAnnot => "create annotation"
  | .removeAnnot => "remove annotation"
  | .getAnnotRect => "get annotation rect"
  | .setAnnotRect => "set annotation rect"
  | .getEmbeddedCount => "get annotation object count"
  | .embedObject => "append annotation object"
  | .removeEmbedded => "remove annotation object"
  | .getQuad => "get attachment points"
  | .setQuad => "set attachment points"
  | .appendQuad => "append attachment points"
  | .clearQuad => "clear attachment points"
  | .removeQuad => "remove attachment points"
  | .getAnnotColor => "get annotation color"
  | .setAnnotColor => "set annotation color"
  | .setTextColor => "set text color"
  | .setBackgroundColor => "set background color"
  | .getContents => "get annotation contents"
  | .setContents => "set annotation contents"

inductive Error
  | kindMismatch (expected found : ObjectKind)
  | annotMismatch (expected found : AnnotKind)
  | unsupportedSegment (index : Nat)
  | unsupportedObject (kind : ObjectKind)
  | unsupportedInStamp (kind : ObjectKind)
  | unsupportedAnnot (kind : AnnotKind)
  | unknownFormat (code : Int)
  | unknownFont (name : String)
  | unknownFamily (index : Int)
  | unknownRenderMode (code : Int)
  | emptyPath
  | emptyText
  | missingContents
  | refused (operation : Operation)
  | outOfRange (index length : Nat)
  | bitmap (fault : BitmapFault)
  deriving DecidableEq

def Error.message : Error → String
  | .kindMismatch expected found => s!"Type mismatch: expected {expected.name}, found {found.name}"
  | .annotMismatch expected found => s!"Type mismatch: expected {expected.name}, found {found.name}"
  | .unsupportedSegment index => s!"Unsupported path segment at index {index}"
  | .unsupportedObject kind => s!"Unsupported page object: {kind.name}"
  | .unsupportedInStamp kind => s!"Unsupported page object: {kind.name} in stamp"
  | .unsupportedAnnot kind => s!"Unsupported annotation: {kind.name}"
  | .unknownFormat code => s!"Unknown bitmap format: {code}"
  | .unknownFont name => s!"Unknown font: {name}"
  | .unknownFamily index => s!"Invalid font family index: {index}"
  | .unknownRenderMode code => s!"Unknown text render mode: {code}"
  | .emptyPath => "Path has no segments"
  | .emptyText => "Text object has no text"
  | .missingContents => "Free text annotation has no contents"
  | .refused operation => s!"Native call failed: {operation.description}"
  | .outOfRange index length => s!"Index {index} out of range (len: {length})"
  | .bitmap fault => s!"Bitmap error: {fault.message}"

end PageContent
