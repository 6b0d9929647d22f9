import Acceptance.Decimal.Written
import Acceptance.Outcome

namespace Acceptance

open Decimal

namespace Duration

-- Durations in reports are seconds as a binary64 number: the whole seconds and the fraction are
-- rounded each, and then their sum.

-- The duration in seconds. Durations stay below `2 ^ 64` seconds, far inside the range.
def inSeconds (duration : Duration) : Binary64 :=
  let sum? := do
    let whole ← Binary64.nearest? duration.seconds 1
    let fraction ← Binary64.nearest? duration.nanoseconds 1000000000
    whole.add? fraction
  sum?.getD ⟨0, Binary64.leastExponent⟩

-- The fewest digits that read back, a tie going to the even one; an exponent from `10 ^ 16` on
-- and below `10 ^ -5`.
def shortest (duration : Duration) : List Char :=
  let digits := duration.inSeconds.shortest .toEven
  if digits.coefficient = 0 || (-5 ≤ digits.magnitude && digits.magnitude < 16) then
    digits.positional
  else digits.scientific

def hundredths (duration : Duration) : List Char := duration.inSeconds.fixed 2

end Duration
end Acceptance
