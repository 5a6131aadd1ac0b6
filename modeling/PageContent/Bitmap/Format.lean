import PageContent.Color

namespace PageContent

/-- The packings of a pixel: blue, green and red, alone or followed by a fourth byte which is alpha in
`bgra` and means nothing in `bgrx`. -/
inductive PixelFormat
  | unknown
  | bgr
  | bgrx
  | bgra
  deriving DecidableEq

namespace PixelFormat

def ofCode : Int → PixelFormat
  | 2 => .bgr
  | 3 => .bgrx
  | 4 => .bgra
  | _ => .unknown

def code : PixelFormat → Int
  | .unknown => 0
  | .bgr => 2
  | .bgrx => 3
  | .bgra => 4

def pixelSize : PixelFormat → Option Nat
  | .unknown => none
  | .bgr => some 3
  | .bgrx | .bgra => some 4

end PixelFormat

inductive AlphaMode
  | preserve
  | ignore
  deriving DecidableEq

/-- The colour of the pixel at the head of the bytes. Only `bgra` pixels have an alpha of their own. -/
def PixelFormat.decode (format : PixelFormat) (alpha : AlphaMode) : List UInt8 → Color
  | b :: g :: r :: rest =>
    ⟨r, g, b, if format = .bgra ∧ alpha = .preserve then rest.headD 255 else 255⟩
  | _ => .black

namespace Color

def rgba (c : Color) : List UInt8 := [c.r, c.g, c.b, c.a]

def bgra (c : Color) : List UInt8 := [c.b, c.g, c.r, c.a]

def ofRgba : List UInt8 → Color
  | r :: g :: b :: a :: _ => ⟨r, g, b, a⟩
  | _ => .black

end Color

end PageContent
