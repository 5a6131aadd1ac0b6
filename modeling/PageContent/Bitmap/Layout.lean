import PageContent.Error

namespace PageContent.Layout

/-- Sizes are counted in 64 bits. -/
def sizeLimit : Nat := Nat.pow 2 64

/-- Every buffer is shorter than half of what a size can count. -/
def bufferLimit : Nat := Nat.pow 2 63

/-- A buffer of zero bytes. There is no answer where no buffer can be that long. -/
def zeros? (length : Nat) : Option (List UInt8) :=
  if length < bufferLimit then some (List.replicate length 0) else none

def rowSize (width pixelSize : Nat) : Except Error Nat :=
  if width * pixelSize < sizeLimit then .ok (width * pixelSize) else .error (.bitmap (.rowOverflows width))

/-- The bytes from the first pixel to the last; the last row needs no padding. -/
def extent? (row stride : Nat) : Nat → Option Nat
  | 0 => some 0
  | height + 1 => if height * stride + row < sizeLimit then some (height * stride + row) else none

/-- Fails unless `height` rows of `row` bytes, `stride` apart, lie inside a buffer of `length` bytes. -/
def check (buffer : Buffer) (length row stride height : Nat) : Except Error Unit :=
  if stride < row then
    .error (.bitmap (.strideTooShort buffer stride row))
  else
    match extent? row stride height with
    | none => .error (.bitmap (.rowsOverflow buffer height stride))
    | some required =>
      if length < required then .error (.bitmap (.bufferTooSmall buffer length required)) else .ok ()

end PageContent.Layout
