import PageContent.Bitmap.Format
import PageContent.Bitmap.Layout

namespace PageContent

/-- Lays the images of `width` pixels of `srcSize` bytes over the head of `dst`. `paint` turns the bytes
that start with a source pixel into the bytes of one destination pixel, `dstSize` of them. -/
def paintRow (paint : List UInt8 → List UInt8) (srcSize dstSize : Nat) :
    Nat → List UInt8 → List UInt8 → List UInt8
  | 0, _, dst => dst
  | width + 1, src, dst =>
    paint (src.take srcSize) ++ paintRow paint srcSize dstSize width (src.drop srcSize) (dst.drop dstSize)

/-- Paints one row over the head of each stretch of `dstStride` bytes; what a row leaves of its
stretch stays as it is. -/
def paintRows (row : List UInt8 → List UInt8 → List UInt8) (srcStride dstStride : Nat) :
    Nat → List UInt8 → List UInt8 → List UInt8
  | 0, _, dst => dst
  | height + 1, src, dst =>
    let painted := row src dst
    painted.take dstStride ++
      paintRows row srcStride dstStride height (src.drop srcStride) (painted.drop dstStride)

structure Plane where
  bytes : List UInt8
  stride : Nat
  deriving DecidableEq

/-- A picture without pixels is not walked over, whatever its height. -/
def paintPlane (paint : List UInt8 → List UInt8) (srcSize dstSize width height : Nat) (src dst : Plane) :
    List UInt8 :=
  if width = 0 then dst.bytes
  else paintRows (paintRow paint srcSize dstSize width) src.stride dst.stride height src.bytes dst.bytes

/-- The destination's bytes after the pixels of `src` were written over them as red, green, blue and
alpha. Padding in the destination is kept. -/
def convertToRgba (format : PixelFormat) (alpha : AlphaMode) (width height : Nat) (src dst : Plane) :
    Except Error (List UInt8) :=
  match format.pixelSize with
  | none => .error (.unknownFormat format.code)
  | some size => do
    let srcRow ← Layout.rowSize width size
    let dstRow ← Layout.rowSize width 4
    Layout.check .source src.bytes.length srcRow src.stride height
    Layout.check .destination dst.bytes.length dstRow dst.stride height
    pure (paintPlane (fun pixel => (format.decode alpha pixel).rgba) size 4 width height src dst)

def convertFromRgba (width height : Nat) (src dst : Plane) : Except Error (List UInt8) := do
  let row ← Layout.rowSize width 4
  Layout.check .source src.bytes.length row src.stride height
  Layout.check .destination dst.bytes.length row dst.stride height
  pure (paintPlane (fun pixel => (Color.ofRgba pixel).bgra) 4 4 width height src dst)

end PageContent
