import Acceptance.Decimal.Binary64

namespace Acceptance.Decimal

-- The shortest decimal that rounds to a given binary64 number.

structure Numeral where
  coefficient : Nat
  exponent : Int
  deriving DecidableEq, Repr

namespace Numeral

def toRatio (numeral : Numeral) : Nat × Nat :=
  if 0 ≤ numeral.exponent then (numeral.coefficient * Nat.pow 10 numeral.exponent.toNat, 1)
  else (numeral.coefficient, Nat.pow 10 (-numeral.exponent).toNat)

def digits (numeral : Numeral) : List Char := Nat.toDigits 10 numeral.coefficient

def magnitude (numeral : Numeral) : Int := numeral.exponent + numeral.digits.length - 1

def stripZeros : Nat → Numeral → Numeral
  | 0, numeral => numeral
  | fuel + 1, ⟨coefficient, exponent⟩ =>
      if coefficient = 0 then ⟨0, 0⟩
      else if coefficient % 10 = 0 then stripZeros fuel ⟨coefficient / 10, exponent + 1⟩
      else ⟨coefficient, exponent⟩

end Numeral

def leadingZeros (num den : Nat) : Nat → Nat → Nat
  | 0, start => start
  | fuel + 1, start =>
      if den ≤ num * Nat.pow 10 start then start else leadingZeros num den fuel (start + 1)

def firstDigit (num den : Nat) : Int :=
  if den ≤ num then ((Nat.toDigits 10 (num / den)).length : Int) - 1
  else -(leadingZeros num den 400 1 : Int)

namespace Binary64

def bounds (number : Binary64) : Nat × Nat :=
  let narrow := number.significand = Nat.pow 2 52 ∧ leastExponent < number.exponent
  (4 * number.significand - (if narrow then 1 else 2), 4 * number.significand + 2)

def reads (number : Binary64) (numeral : Numeral) : Bool :=
  let (num, den) := numeral.toRatio
  let (num, den) := unscale 2 num den (number.exponent - 2)
  let (low, high) := number.bounds
  if number.significand % 2 = 0 then low * den ≤ num && num ≤ high * den
  else low * den < num && num < high * den

-- Of the two neighbours with `count` digits, the nearer one that rounds to the number.
def neighbour? (tie : Tie) (number : Binary64) (first : Int) (count : Nat) : Option Numeral :=
  let (num, den) := number.toRatio
  let exponent := first - count + 1
  let (n, d) := unscale 10 num den exponent
  let below : Numeral := ⟨n / d, exponent⟩
  let above : Numeral := ⟨n / d + 1, exponent⟩
  let nearest : Numeral := ⟨roundDiv tie n d, exponent⟩
  if number.reads nearest then some nearest
  else if number.reads below then some below
  else if number.reads above then some above
  else none

def shortest (tie : Tie) (number : Binary64) : Numeral :=
  if number.significand = 0 then ⟨0, 0⟩
  else
    let (num, den) := number.toRatio
    let first := firstDigit num den
    let found := (List.range 17).findSome? fun i => number.neighbour? tie first (i + 1)
    (found.getD ⟨0, 0⟩).stripZeros 400

end Binary64
end Acceptance.Decimal
