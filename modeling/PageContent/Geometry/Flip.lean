import PageContent.Geometry.Matrix
import PageContent.Geometry.Rect

namespace PageContent

variable {α : Type}

def Space.opposite : Space → Space
  | .page => .device
  | .device => .page

def Point.flip [Sub α] {s : Space} (height : α) (p : Point s α) : Point s.opposite α :=
  ⟨p.x, height - p.y⟩

def Rect.flip [Sub α] {s : Space} (height : α) (r : Rect s α) : Rect s.opposite α :=
  ⟨r.left, height - r.top, r.right, height - r.bottom⟩

/-- Zero of either sign stays a positive zero. -/
def negate [Neg α] [OfNat α 0] [BEq α] (x : α) : α := if x == 0 then 0 else -x

/-- What an object with the page transform `raw` and the local bounds `bounds` looks like from device
space: the flip is anchored at the object's own middle, so that its local geometry is kept upright. -/
def deviceMatrix [Add α] [Sub α] [Mul α] [Neg α] [OfNat α 0] [BEq α]
    (raw : Matrix α) (bounds : Rect .page α) (height : α) : Matrix α where
  a := raw.a
  b := negate raw.b
  c := negate raw.c
  d := raw.d
  e := raw.e + bounds.span * raw.c
  f := height - raw.f - bounds.span * raw.d

/-- The transforms which, appended to an identity in this order, give an object `device` as its
device matrix. -/
def placement [Add α] [Neg α] [OfNat α 0] [OfNat α 1] [BEq α]
    (device : Matrix α) (bounds : Rect .page α) (height : α) : List (Matrix α) :=
  [.translation 0 (-bounds.span),
    ⟨device.a, negate device.b, negate device.c, device.d, device.e, negate device.f⟩,
    .translation 0 height]

end PageContent
