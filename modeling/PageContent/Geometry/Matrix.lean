namespace PageContent

/-- An affine map of the plane, which takes `(x, y)` to `(a * x + c * y + e, b * x + d * y + f)`.
The scalars are left open, so that the same definitions are read in rounded and in exact arithmetic. -/
@[ext]
structure Matrix (α : Type) where
  a : α
  b : α
  c : α
  d : α
  e : α
  f : α
  deriving DecidableEq, BEq

namespace Matrix

variable {α : Type}

def translation [OfNat α 0] [OfNat α 1] (x y : α) : Matrix α := ⟨1, 0, 0, 1, x, y⟩

def scaling [OfNat α 0] (x y : α) : Matrix α := ⟨x, 0, 0, y, 0, 0⟩

def identity [OfNat α 0] [OfNat α 1] : Matrix α := ⟨1, 0, 0, 1, 0, 0⟩

/-- The map which applies `m` first and then `n`. -/
def multiply [Add α] [Mul α] (m n : Matrix α) : Matrix α where
  a := m.a * n.a + m.b * n.c
  b := m.a * n.b + m.b * n.d
  c := m.c * n.a + m.d * n.c
  d := m.c * n.b + m.d * n.d
  e := m.e * n.a + m.f * n.c + n.e
  f := m.e * n.b + m.f * n.d + n.f

def product [Add α] [Mul α] [OfNat α 0] [OfNat α 1] : List (Matrix α) → Matrix α
  | [] => identity
  | m :: ms => ms.foldl multiply m

def apply [Add α] [Mul α] (m : Matrix α) (x y : α) : α × α :=
  (m.a * x + m.c * y + m.e, m.b * x + m.d * y + m.f)

def isIdentity [OfNat α 0] [OfNat α 1] [BEq α] (m : Matrix α) : Bool := m == identity

def coefficients (m : Matrix α) : List α := [m.a, m.b, m.c, m.d, m.e, m.f]

/-- The rows of the three by three matrix which acts on columns `(x, y, 1)`. -/
def toAffine [OfNat α 0] [OfNat α 1] (m : Matrix α) : Vector α 9 :=
  #v[m.a, m.c, m.e, m.b, m.d, m.f, 0, 0, 1]

def ofAffine (v : Vector α 9) : Matrix α := ⟨v[0], v[3], v[1], v[4], v[2], v[5]⟩

end Matrix

/-- A distance which is a NaN is within no tolerance. -/
def within (tolerance x y : Float32) : Bool := (x - y).abs ≤ tolerance

def Matrix.approxEq (tolerance : Float32) (m n : Matrix Float32) : Bool :=
  (m.coefficients.zip n.coefficients).all fun (x, y) => within tolerance x y

end PageContent
