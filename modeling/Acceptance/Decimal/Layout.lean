import Acceptance.Decimal.Written

namespace Acceptance.Decimal

-- Fractions written with a given number of digits: with fixed places, with an exponent, or in
-- whichever of the two forms is shorter.

def withPoint (places : Nat) (keepPoint : Bool) (number : Nat) : List Char :=
  let digits := Nat.toDigits 10 number
  let padded := zeros (places + 1 - digits.length) ++ digits
  let whole := padded.take (padded.length - places)
  if places = 0 then (if keepPoint then whole ++ ['.'] else whole)
  else whole ++ '.' :: padded.drop (padded.length - places)

def fixedLayout (places : Nat) (keepPoint : Bool) (num den : Nat) : List Char :=
  withPoint places keepPoint (roundDiv .toEven (num * Nat.pow 10 places) den)

def magnitudeOf (num den : Nat) : Int :=
  if num = 0 then 0
  else
    let guess : Int := ((Nat.toDigits 10 num).length : Int) - (Nat.toDigits 10 den).length
    let (n, d) := unscale 10 num den guess
    if n < d then guess - 1 else guess

def significant (places : Nat) (num den : Nat) : Nat × Int :=
  let magnitude := magnitudeOf num den
  let (n, d) := unscale 10 num den (magnitude - places)
  let rounded := roundDiv .toEven n d
  if Nat.pow 10 (places + 1) ≤ rounded then (rounded / 10, magnitude + 1) else (rounded, magnitude)

def exponentLayout (letter : Char) (exponent : Int) : List Char :=
  let digits := Nat.toDigits 10 exponent.natAbs
  letter :: (if exponent < 0 then '-' else '+') :: (zeros (2 - digits.length) ++ digits)

def scientificLayout (letter : Char) (places : Nat) (keepPoint : Bool) (num den : Nat) :
    List Char :=
  let (digits, exponent) := significant places num den
  withPoint places keepPoint digits ++ exponentLayout letter exponent

def trimZeros (text : List Char) : List Char :=
  if text.contains '.' then
    let short := text.reverse.dropWhile (· == '0')
    (if short.head? = some '.' then short.drop 1 else short).reverse
  else text

-- With at most `precision` digits. Very small and very large numbers have an exponent.
def generalLayout (letter : Char) (precision : Nat) (keepZeros : Bool) (num den : Nat) :
    List Char :=
  let precision := max precision 1
  let (digits, exponent) := significant (precision - 1) num den
  let trim := if keepZeros then id else trimZeros
  if exponent < -4 || (precision : Int) ≤ exponent then
    trim (withPoint (precision - 1) keepZeros digits) ++ exponentLayout letter exponent
  else trim (fixedLayout (precision - 1 - exponent).toNat keepZeros num den)

end Acceptance.Decimal
