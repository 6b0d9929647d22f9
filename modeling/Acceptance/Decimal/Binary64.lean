
namespace Acceptance.Decimal

-- Non-negative binary64 numbers as exact values `significand * 2 ^ exponent`, and rounding of a
-- quotient to the nearest of them.

inductive Tie where
  | toEven
  | up
  deriving DecidableEq, Repr

def roundDiv (tie : Tie) (num den : Nat) : Nat :=
  let quotient := num / den
  let twice := 2 * (num % den)
  if twice < den then quotient
  else if den < twice then quotient + 1
  else if tie = .toEven ∧ quotient % 2 = 0 then quotient
  else quotient + 1

def unscale (base num den : Nat) (exponent : Int) : Nat × Nat :=
  if 0 ≤ exponent then (num, den * Nat.pow base exponent.toNat)
  else (num * Nat.pow base (-exponent).toNat, den)

structure Binary64 where
  significand : Nat
  exponent : Int
  deriving DecidableEq, Repr

namespace Binary64

def leastExponent : Int := -1074
def greatestExponent : Int := 971

def nearest? (num den : Nat) : Option Binary64 :=
  if num = 0 then some ⟨0, leastExponent⟩
  else
    let guess : Int := max ((num.log2 : Int) - den.log2 - 52) leastExponent
    let (n, d) := unscale 2 num den guess
    let exponent := if n / d < Nat.pow 2 52 && leastExponent < guess then guess - 1 else guess
    let (n, d) := unscale 2 num den exponent
    let rounded := roundDiv .toEven n d
    let number : Binary64 :=
      if rounded = Nat.pow 2 53 then ⟨Nat.pow 2 52, exponent + 1⟩ else ⟨rounded, exponent⟩
    if greatestExponent < number.exponent then none else some number

def toRatio (number : Binary64) : Nat × Nat :=
  if 0 ≤ number.exponent then (number.significand * Nat.pow 2 number.exponent.toNat, 1)
  else (number.significand, Nat.pow 2 (-number.exponent).toNat)

def add? (left right : Binary64) : Option Binary64 :=
  let (leftNum, leftDen) := left.toRatio
  let (rightNum, rightDen) := right.toRatio
  nearest? (leftNum * rightDen + rightNum * leftDen) (leftDen * rightDen)

-- The number nearest to `coefficient * 10 ^ exponent`, or none if that is out of range. The
-- guards only keep hopeless powers of ten from being computed.
def ofDecimal? (coefficient : Nat) (exponent : Int) : Option Binary64 :=
  let magnitude : Int := exponent + coefficient.log2 / 3
  if coefficient = 0 then nearest? 0 1
  else if magnitude < -700 then nearest? 0 1
  else if 700 < exponent then none
  else if 0 ≤ exponent then nearest? (coefficient * Nat.pow 10 exponent.toNat) 1
  else nearest? coefficient (Nat.pow 10 (-exponent).toNat)

end Binary64
end Acceptance.Decimal
