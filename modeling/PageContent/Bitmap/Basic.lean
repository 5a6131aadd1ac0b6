import PageContent.Bitmap.Transcode

namespace PageContent

structure Bitmap where
  width : Nat
  height : Nat
  stride : Nat
  format : PixelFormat
  data : List UInt8
  deriving DecidableEq

namespace Bitmap

/-- The bytes of one row and of all rows, packed tightly. -/
def packing (width height : Nat) (format : PixelFormat) : Except Error (Nat × Nat) :=
  match format.pixelSize with
  | none => .error (.unknownFormat format.code)
  | some size => do
    let stride ← Layout.rowSize width size
    match Layout.extent? stride stride height with
    | none => .error (.bitmap (.bitmapOverflows width height))
    | some length => pure (stride, length)

/-- A tightly packed bitmap of zero bytes. The checks let pass what a size can count, also where no buffer can be that
long: there is no answer then. -/
def blank? (width height : Nat) (format : PixelFormat) : Option (Except Error Bitmap) :=
  match packing width height format with
  | .error e => some (.error e)
  | .ok (stride, length) => (Layout.zeros? length).map fun data => .ok ⟨width, height, stride, format, data⟩

def ofBytes (width height stride : Nat) (format : PixelFormat) (data : List UInt8) : Except Error Bitmap :=
  match format.pixelSize with
  | none => .error (.unknownFormat format.code)
  | some size => do
    let row ← Layout.rowSize width size
    Layout.check .bitmap data.length row stride height
    pure ⟨width, height, stride, format, data⟩

def ofRgba? (width height : Nat) (rgba : List UInt8) : Option (Except Error Bitmap) :=
  (blank? width height .bgra).map fun made => do
    let bitmap ← made
    let row ← Layout.rowSize width 4
    let data ← convertFromRgba width height ⟨rgba, row⟩ ⟨bitmap.data, bitmap.stride⟩
    pure { bitmap with data }

/-- Pixels never lack a buffer here: they take at most a third more bytes than the rows that are in memory already. -/
def toRgba (bitmap : Bitmap) (alpha : AlphaMode) : Except Error (List UInt8) := do
  let row ← Layout.rowSize bitmap.width 4
  match Layout.extent? row row bitmap.height with
  | none => .error (.bitmap (.rgbaOverflows bitmap.width bitmap.height))
  | some length =>
    convertToRgba bitmap.format alpha bitmap.width bitmap.height ⟨bitmap.data, bitmap.stride⟩
      ⟨List.replicate length 0, row⟩

def row? (bitmap : Bitmap) (y : Nat) : Option (List UInt8) :=
  if y < bitmap.height then
    bitmap.format.pixelSize.bind fun size =>
      let start := y * bitmap.stride
      let length := bitmap.width * size
      if start + length ≤ bitmap.data.length then some ((bitmap.data.drop start).take length) else none
  else none

def overwrite (bitmap : Bitmap) (start : Nat) (bytes : List UInt8) : Bitmap :=
  { bitmap with
    data := bitmap.data.take start ++ bytes.take (bitmap.data.length - start)
      ++ bitmap.data.drop (start + bytes.length) }

end Bitmap

end PageContent
