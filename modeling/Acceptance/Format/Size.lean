import Acceptance.Format.Conversion

namespace Acceptance.Format

-- Sizes: whole numbers with a unit, which may be a power of 1024 or of 1000.

def unit? (unit : List Char) : Option Nat :=
  match unit with
  | [] | ['c'] => some 1
  | ['w'] => some 2
  | ['b'] => some 512
  | c :: rest =>
      match "KMGTPEZYRQ".toList.idxOf? (if c = 'k' || c = 'm' then c.toUpper else c) with
      | some power =>
          if rest = [] || rest = ['i', 'B'] then some (Nat.pow 1024 (power + 1))
          else if rest = ['B'] then some (Nat.pow 1000 (power + 1))
          else none
      | none => none

def size? (text : List Char) : Option Nat := do
  let digits := text.takeWhile Char.isDigit
  if text.isEmpty then none
  let factor ← unit? (text.drop digits.length)
  return (if digits.isEmpty then 1 else natOf digits) * factor

end Acceptance.Format
