namespace PageContent

@[ext]
structure Color where
  r : UInt8
  g : UInt8
  b : UInt8
  a : UInt8
  deriving DecidableEq

namespace Color

def solid (r g b : UInt8) : Color := ⟨r, g, b, 255⟩

def black : Color := solid 0 0 0

def white : Color := solid 255 255 255

def toArgb (c : Color) : UInt32 :=
  c.a.toUInt32 <<< 24 ||| c.r.toUInt32 <<< 16 ||| c.g.toUInt32 <<< 8 ||| c.b.toUInt32

def ofArgb (word : UInt32) : Color :=
  ⟨(word >>> 16).toUInt8, (word >>> 8).toUInt8, word.toUInt8, (word >>> 24).toUInt8⟩

end Color

end PageContent
