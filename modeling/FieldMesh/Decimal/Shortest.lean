/-! # Shortest decimals

A finite floating-point number stands for every real that rounds to it. Of the decimals among
those reals this module finds one with the fewest digits, and of these the nearest; of two equally
near ones a rule for ties chooses. Everything is decided in exact arithmetic on natural numbers.
-/

namespace FieldMesh

/-- The number `digits * 10 ^ exponent`. -/
structure Decimal where
  digits : Nat
  exponent : Int
deriving DecidableEq, Inhabited, Repr

/-- The positive number `mantissa * 2 ^ exponent`; `narrow` says that the next smaller number
is only half as far away as the next larger one. -/
structure Binary where
  mantissa : Nat
  exponent : Int
  narrow : Bool
deriving DecidableEq, Inhabited, Repr

/-- Which of two neighbouring decimals is taken if both are equally near. -/
inductive Tie where
  /-- The larger one. -/
  | up
  /-- The one whose last digit is even. -/
  | even
deriving DecidableEq, Inhabited, Repr

namespace Tie

def takesLower : Tie → Nat → Bool
  | up, _ => false
  | even, lower => lower % 2 = 0

end Tie

namespace Binary

/-- The magnitude that the bits of a finite number other than zero stand for. -/
def ofBits (bits : UInt64) : Binary :=
  let stored : Nat := bits.toNat / 0x10000000000000 % 0x800
  let fraction : Nat := bits.toNat % 0x10000000000000
  if stored = 0 then ⟨fraction, -1074, false⟩
  else ⟨0x10000000000000 + fraction, (stored : Int) - 1075, decide (fraction = 0 ∧ 1 < stored)⟩

/-- Four times the number, so that the ends of its interval are whole. -/
def centre (b : Binary) : Nat := 4 * b.mantissa

/-- The lower end of the interval of reals that round to the number, in quarters. -/
def lower (b : Binary) : Nat := b.centre - if b.narrow then 1 else 2

def upper (b : Binary) : Nat := b.centre + 2

/-- A ratio equal to a quarter of a unit of the number, in units of `10 ^ p`. -/
def scale (b : Binary) (p : Int) : Nat × Nat :=
  (Nat.pow 2 (b.exponent - 2).toNat * Nat.pow 10 (-p).toNat,
    Nat.pow 2 (2 - b.exponent).toNat * Nat.pow 10 p.toNat)

/-- Whether `d * 10 ^ p` rounds to the number; the ends do if the mantissa is even. -/
def rounds (b : Binary) (p : Int) (d : Nat) : Bool :=
  let (num, den) := b.scale p
  if b.mantissa % 2 = 0 then b.lower * num ≤ d * den && d * den ≤ b.upper * num
  else b.lower * num < d * den && d * den < b.upper * num

/-- The multiple of `10 ^ p` nearest to the number among those that round to it. -/
def onGrid (b : Binary) (tie : Tie) (p : Int) : Option Decimal :=
  let (num, den) := b.scale p
  let below := b.centre * num / den
  let above := below + 1
  let twice := 2 * (b.centre * num)
  let middle := (below + above) * den
  let nearer :=
    if twice < middle ∨ twice = middle ∧ tie.takesLower below then below else above
  let other := if nearer = below then above else below
  if b.rounds p nearer then some ⟨nearer, p⟩
  else if b.rounds p other then some ⟨other, p⟩
  else none

def ceiling (b : Binary) : Int :=
  let (num, den) := b.scale (-330)
  ((Nat.toDigits 10 (b.centre * num / den)).length : Int) - 330

/-- The decimal of fewest digits, nearest among those, that rounds to the number: the coarsest
grid with a multiple that does, of which 17 digits are always enough. -/
def shortest (b : Binary) (tie : Tie) : Decimal :=
  ((List.range 18).findSome? fun (k : Nat) => b.onGrid tie (b.ceiling - (k : Int))).getD ⟨0, 0⟩

end Binary

end FieldMesh
