namespace PageContent

/-- Page space has its origin at the bottom left and y grows upward; device space has its
origin at the top left and y grows downward. -/
inductive Space
  | page
  | device
  deriving DecidableEq

@[ext]
structure Point (s : Space) (α : Type) where
  x : α
  y : α
  deriving DecidableEq, BEq

@[ext]
structure Rect (s : Space) (α : Type) where
  left : α
  top : α
  right : α
  bottom : α
  deriving DecidableEq, BEq

variable {α : Type}

/-- The smaller of two numbers, where a number that differs from itself gives way to the other. -/
def lesser [LT α] [DecidableLT α] [BEq α] (x y : α) : α := if y < x || x != x then y else x

def greater [LT α] [DecidableLT α] [BEq α] (x y : α) : α := if x < y || x != x then y else x

namespace Rect

variable {s : Space}

def width [Sub α] (r : Rect s α) : α := r.right - r.left

def height [Sub α] (r : Rect s α) : α :=
  match s with
  | .page => r.top - r.bottom
  | .device => r.bottom - r.top

/-- The flip of a rectangle about its own middle takes `y` to `r.span - y`. -/
def span [Add α] (r : Rect s α) : α := r.top + r.bottom

def isEmpty [Sub α] [OfNat α 0] [BEq α] (r : Rect s α) : Bool := r.width == 0 || r.top == r.bottom

def ofPoint (p : α × α) : Rect s α := ⟨p.1, p.2, p.1, p.2⟩

def union [LT α] [DecidableLT α] [BEq α] (r t : Rect .page α) : Rect .page α where
  left := lesser r.left t.left
  top := greater r.top t.top
  right := greater r.right t.right
  bottom := lesser r.bottom t.bottom

def hull? [LT α] [DecidableLT α] [BEq α] : List (Rect .page α) → Option (Rect .page α)
  | [] => none
  | r :: rs => some (rs.foldl union r)

def edges (r : Rect s α) : List α := [r.left, r.top, r.right, r.bottom]

end Rect

end PageContent
