import PageContent.Bitmap.Basic
import PageContent.Geometry.Matrix
import PageContent.Text.Font

namespace PageContent

@[ext]
structure Attributes where
  deviceMatrix : Matrix Float32
  fillColor : Color
  strokeColor : Color
  strokeWidth : Float32
  deriving DecidableEq, BEq

namespace Attributes

def plain : Attributes := ⟨.identity, .black, .black, 1⟩

def approxEq (tolerance : Float32) (a b : Attributes) : Bool :=
  a.deviceMatrix.approxEq tolerance b.deviceMatrix && a.fillColor == b.fillColor
    && a.strokeColor == b.strokeColor && within tolerance a.strokeWidth b.strokeWidth

end Attributes

@[ext]
structure Segment where
  command : PathCommand
  x : Float32
  y : Float32
  /-- The part of the path that ends here is closed. -/
  closed : Bool
  deriving DecidableEq, BEq

inductive Content
  | path (segments : List Segment) (fill stroke : Bool)
  | image (bitmap : Bitmap)
  | text (string : String) (font : Font) (size : Float32) (mode : RenderMode)
  deriving DecidableEq, BEq

def Content.kind : Content → ObjectKind
  | .path .. => .path
  | .image _ => .image
  | .text .. => .text

@[ext]
structure PageObject where
  content : Content
  attributes : Attributes
  deriving DecidableEq, BEq

def PageObject.kind (o : PageObject) : ObjectKind := o.content.kind

end PageContent
