import JobMeter.Number.Style

/-!
# Quantities

Clocks, durations and amounts are counted in a type of quantities: doubles when the service runs,
rational numbers when its arithmetic is to be exact.
-/

namespace JobMeter

/-- What clocks and counters need of numbers. -/
class Quantity (τ : Type) where
  zero : τ
  one : τ
  add : τ → τ → τ
  sub : τ → τ → τ
  lt : τ → τ → Bool
  le : τ → τ → Bool
  /-- The seconds of a number of microseconds. -/
  ofMicroseconds : Int → τ

namespace Quantity

instance : Quantity Float where
  zero := 0
  one := 1
  add := (· + ·)
  sub := (· - ·)
  lt x y := decide (x < y)
  le x y := decide (x ≤ y)
  ofMicroseconds n := Number.scaled (n < 0) n.natAbs (-6)

instance : Quantity Rat where
  zero := 0
  one := 1
  add := (· + ·)
  sub := (· - ·)
  lt x y := decide (x < y)
  le x y := decide (x ≤ y)
  ofMicroseconds n := (n : Rat) / 1000000

@[simp] theorem zero_rat : (zero : Rat) = 0 := rfl

@[simp] theorem one_rat : (one : Rat) = 1 := rfl

@[simp] theorem add_rat (x y : Rat) : add x y = x + y := rfl

@[simp] theorem sub_rat (x y : Rat) : sub x y = x - y := rfl

@[simp] theorem lt_rat (x y : Rat) : lt x y = decide (x < y) := rfl

@[simp] theorem le_rat (x y : Rat) : le x y = decide (x ≤ y) := rfl

/-- The quantity, or zero if it is below zero. -/
def atLeastZero {τ : Type} [Quantity τ] (x : τ) : τ := if lt x zero then zero else x

/-- The quantity, or zero if it is not above zero. -/
def positivePart {τ : Type} [Quantity τ] (x : τ) : τ := if lt zero x then x else zero

end Quantity

end JobMeter
