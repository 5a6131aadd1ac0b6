namespace PageContent.Utf16

def isHigh (u : UInt16) : Bool := 0xD800 ≤ u && u < 0xDC00

def isLow (u : UInt16) : Bool := 0xDC00 ≤ u && u < 0xE000

def encodeChar (c : Char) : List UInt16 :=
  if c.toNat < 0x10000 then [c.toNat.toUInt16]
  else
    let offset := c.toNat - 0x10000
    [(0xD800 + offset / 0x400).toUInt16, (0xDC00 + offset % 0x400).toUInt16]

def encode (text : List Char) : List UInt16 := text.flatMap encodeChar

def pair (high low : UInt16) : Char :=
  Char.ofNat (0x10000 + (high.toNat - 0xD800) * 0x400 + (low.toNat - 0xDC00))

def replacement : Char := '\uFFFD'

/-- A surrogate without its partner becomes the replacement character. -/
def decode : List UInt16 → List Char
  | [] => []
  | u :: us =>
    if isHigh u then
      match us with
      | [] => [replacement]
      | v :: vs => if isLow v then pair u v :: decode vs else replacement :: decode (v :: vs)
    else if isLow u then replacement :: decode us
    else Char.ofNat u.toNat :: decode us

def body (units : List UInt16) : List UInt16 := units.takeWhile (· != 0)

/-- What is stored of a text: it ends at its first zero, and one zero follows. -/
def terminated (units : List UInt16) : List UInt16 := body units ++ [0]

def ofText (text : String) : List UInt16 := encode text.toList ++ [0]

def toText (units : List UInt16) : String := String.ofList (decode (body units))

/-- What a reader sees of a stored text: its length, and the buffer afterwards. A buffer that is too
short is left alone, so an empty one asks for the length only. -/
def copyInto (buffer units : List UInt16) : Nat × List UInt16 :=
  (units.length, if units.length ≤ buffer.length then units ++ buffer.drop units.length else buffer)

end PageContent.Utf16
