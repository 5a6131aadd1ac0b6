namespace PageContent

/-- The number `digits * 10 ^ exponent`. -/
structure Decimal where
  digits : Nat
  exponent : Int
  deriving DecidableEq

namespace Decimal

/-- A positive number `mantissa * 2 ^ exponent` of a binary format, and whether the next smaller number of
the format is only half as far away as the next larger. -/
structure Binary where
  mantissa : Nat
  exponent : Int
  narrowBelow : Bool
  deriving DecidableEq

def Binary.ofBits32 (bits : Nat) : Binary :=
  let biased : Nat := bits / Nat.pow 2 23 % Nat.pow 2 8
  let fraction : Nat := bits % Nat.pow 2 23
  if biased = 0 then ⟨fraction, -149, false⟩
  else ⟨Nat.pow 2 23 + fraction, biased - 150, fraction = 0 && biased > 1⟩

/-- The point `digits` of the grid of step `10 ^ t` which rounds to the binary number, if there is one:
of two such points the nearer, and of two equally near the even one. All numbers are taken four times, so
that the ends of the interval which rounds to the binary number are whole; the ends themselves round to
it if its mantissa is even. -/
def onGrid (b : Binary) (t : Int) : Option Nat :=
  let up := Nat.pow 2 b.exponent.toNat * Nat.pow 10 (-t).toNat
  let unit := 4 * Nat.pow 2 (-b.exponent).toNat * Nat.pow 10 t.toNat
  let value := 4 * b.mantissa * up
  let low := value - (if b.narrowBelow then 1 else 2) * up
  let high := value + 2 * up
  let fits := fun d => if b.mantissa % 2 = 0 then low ≤ d * unit ∧ d * unit ≤ high
    else low < d * unit ∧ d * unit < high
  let d := value / unit
  let below := value - d * unit
  let above := (d + 1) * unit - value
  if d ≠ 0 ∧ fits d ∧ (¬ fits (d + 1) ∨ below < above ∨ below = above ∧ d % 2 = 0) then some d
  else if fits (d + 1) then some (d + 1)
  else none

/-- The fewest digits that read back as the binary number: the first hit on grids that become finer, from
beyond the largest number of the format to below the smallest. -/
def shortest (b : Binary) : Option Decimal :=
  (List.range 90).findSome? fun n : Nat => (onGrid b (40 - n)).map fun d => ⟨d, 40 - n⟩

end Decimal

end PageContent
