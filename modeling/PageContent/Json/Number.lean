import PageContent.Json.Value
import PageContent.Decimal.Shortest

namespace PageContent.Json.Number

def wordLimit : Nat := Nat.pow 2 64

def absorb (limit : Nat) : Nat → List Nat → Nat × List Nat
  | n, [] => (n, [])
  | n, d :: ds => if n * 10 + d < limit then absorb limit (n * 10 + d) ds else (n, d :: ds)

/-- The number without its sign as `significand * 10 ^ exponent`, where the significand is a 64-bit word
and digits that would make it too long are dropped. -/
structure Scaled where
  significand : Nat
  exponent : Int
  deriving DecidableEq

def mantissa (n : Number) : Scaled :=
  let (whole, dropped) := absorb wordLimit 0 n.whole
  match n.fraction with
  | none => ⟨whole, dropped.length⟩
  | some digits =>
    let (significand, left) := absorb wordLimit whole digits
    ⟨significand, dropped.length - (digits.length - left.length : Nat)⟩

def isInteger (n : Number) : Bool :=
  n.fraction.isNone && n.exponent.isNone && (absorb wordLimit 0 n.whole).2.isEmpty

/-- Multiplies or divides by a power of ten, once where the power is a double and in several steps below
that. A number that would become infinite is none. -/
def scale (x : Float) (exponent : Int) : Option Float :=
  if exponent < -308 then
    if x == 0 then some x else scale (x / 1e308) (exponent + 308)
  else if exponent < 0 then
    some (x / Float.ofNat (Nat.pow 10 (-exponent).toNat))
  else if exponent ≤ 308 then
    let y := x * Float.ofNat (Nat.pow 10 exponent.toNat)
    if y.isInf then none else some y
  else if x == 0 then some x
  else none
termination_by exponent.natAbs

def signed (n : Number) (x : Float) : Float := if n.negative then -x else x

/-- An exponent that is not a 31-bit number takes all numbers to zero or out of range. -/
def toFloat? (n : Number) : Option Float :=
  let m := n.mantissa
  let start := Float.ofNat m.significand
  match n.exponent with
  | none => n.signed <$> scale start m.exponent
  | some (negative, digits) =>
    let (exponent, left) := absorb (Nat.pow 2 31) 0 digits
    if left.isEmpty then
      n.signed <$> scale start (if negative then m.exponent - exponent else m.exponent + exponent)
    else if m.significand = 0 ∨ negative then some (n.signed 0)
    else none

/-- Integers of a word's size are rounded once, and all other numbers by way of a double. Minus zero and
integers below the least signed word count with the others. -/
def toFloat32? (n : Number) : Option Float32 :=
  let word := n.mantissa.significand
  if n.isInteger && !n.negative then some (Float32.ofNat word)
  else if n.isInteger && 0 < word && word ≤ Nat.pow 2 63 then some (-Float32.ofNat word)
  else Float.toFloat32 <$> n.toFloat?

def toByte? (n : Number) : Option UInt8 :=
  if n.isInteger && !n.negative && n.mantissa.significand < 256 then some n.mantissa.significand.toUInt8
  else none

def digitsOf (n : Nat) : List Nat := (Nat.toDigits 10 n).map fun c => c.toNat - '0'.toNat

def ofNat (n : Nat) : Number := ⟨false, digitsOf n, none, none⟩

/-- Spells a decimal with at least one digit after the point, and with an exponent only if it is not
less than `10 ^ 13` or less than `10 ^ -6`. -/
def ofDecimal (negative : Bool) (d : Decimal) : Number :=
  let digits := digitsOf d.digits
  let point : Int := digits.length + d.exponent
  if 0 ≤ d.exponent ∧ point ≤ 13 then
    ⟨negative, digits ++ List.replicate d.exponent.toNat 0, some [0], none⟩
  else if 0 < point ∧ point ≤ 13 then
    ⟨negative, digits.take point.toNat, some (digits.drop point.toNat), none⟩
  else if -6 < point ∧ point ≤ 0 then
    ⟨negative, [0], some (List.replicate (-point).toNat 0 ++ digits), none⟩
  else
    ⟨negative, digits.take 1, if digits.length = 1 then none else some (digits.drop 1),
      some (point < 1, digitsOf (point - 1).natAbs)⟩

def ofFloat32? (x : Float32) : Option Number :=
  let bits := x.toBits.toNat
  let negative := decide (Nat.pow 2 31 ≤ bits)
  if !x.isFinite then none
  else if x == 0 then some ⟨negative, [0], some [0], none⟩
  else (Decimal.shortest (.ofBits32 bits)).map (ofDecimal negative)

end PageContent.Json.Number
