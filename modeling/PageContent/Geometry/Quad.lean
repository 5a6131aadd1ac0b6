import PageContent.Geometry.Rect

namespace PageContent

/-- The corners of one highlighted span, in the order in which they are stored. -/
@[ext]
structure Quad (α : Type) where
  upperLeft : Point .page α
  upperRight : Point .page α
  lowerLeft : Point .page α
  lowerRight : Point .page α
  deriving DecidableEq, BEq

namespace Quad

variable {α : Type}

def corners (q : Quad α) : List (Point .page α) :=
  [q.upperLeft, q.upperRight, q.lowerLeft, q.lowerRight]

def zero [OfNat α 0] : Quad α := ⟨⟨0, 0⟩, ⟨0, 0⟩, ⟨0, 0⟩, ⟨0, 0⟩⟩

/-- A negative zero counts as zero. -/
def isZero [OfNat α 0] [BEq α] (q : Quad α) : Bool := q == zero

def ofRect (r : Rect .page α) : Quad α where
  upperLeft := ⟨r.left, r.top⟩
  upperRight := ⟨r.right, r.top⟩
  lowerLeft := ⟨r.left, r.bottom⟩
  lowerRight := ⟨r.right, r.bottom⟩

def toRect (q : Quad α) : Rect .page α :=
  ⟨q.upperLeft.x, q.upperLeft.y, q.upperRight.x, q.lowerRight.y⟩

def infinity : Float32 := 1 / 0

/-- The rectangle around all four corners; an axis on which every corner is a NaN has
its ends at the infinities, the wrong way round. -/
def bounds (q : Quad Float32) : Rect .page Float32 :=
  let xs := q.corners.map (·.x)
  let ys := q.corners.map (·.y)
  ⟨xs.foldl lesser infinity, ys.foldl greater (-infinity), xs.foldl greater (-infinity), ys.foldl lesser infinity⟩

end Quad

end PageContent
