import Acceptance.Decimal.Shortest

namespace Acceptance.Decimal

-- Written forms of decimals: positional, scientific, and with a fixed number of places.

def zeros (count : Nat) : List Char := List.replicate count '0'

namespace Numeral

def positional (numeral : Numeral) : List Char :=
  let digits := numeral.digits
  if 0 ≤ numeral.exponent then digits ++ zeros numeral.exponent.toNat ++ ['.', '0']
  else
    let places := (-numeral.exponent).toNat
    if places < digits.length then
      digits.take (digits.length - places) ++ '.' :: digits.drop (digits.length - places)
    else '0' :: '.' :: (zeros (places - digits.length) ++ digits)

-- One digit before the point, no point if there are no more digits, and a signed exponent.
def scientific (numeral : Numeral) : List Char :=
  let exponent := numeral.magnitude
  let sign := if exponent < 0 then '-' else '+'
  let fraction := match numeral.digits.drop 1 with
    | [] => []
    | digits => '.' :: digits
  numeral.digits.take 1 ++ fraction ++ 'e' :: sign :: Nat.toDigits 10 exponent.natAbs

end Numeral

def Binary64.fixed (places : Nat) (number : Binary64) : List Char :=
  let (num, den) := number.toRatio
  let digits := Nat.toDigits 10 (roundDiv .toEven (num * Nat.pow 10 places) den)
  let padded := zeros (places + 1 - digits.length) ++ digits
  padded.take (padded.length - places) ++ '.' :: padded.drop (padded.length - places)

end Acceptance.Decimal
