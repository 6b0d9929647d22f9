import Acceptance.Decimal.Binary64
import Acceptance.Format.Conversion

namespace Acceptance.Awk.Number

open Decimal (Binary64)
open Format (Conversion)

-- Numbers of programs on records: binary fractions of 53 bits, read from texts and written by
-- formats without any further rounding.

def infinity : Float := 1.0 / 0.0

def undefined : Float := 0.0 / 0.0

def ofRatio (negative : Bool) (num den : Nat) : Float :=
  let size := match Binary64.nearest? num den with
    | some number => Float.scaleB (Float.ofNat number.significand) number.exponent
    | none => infinity
  if negative then -size else size

def ofInt (value : Int) : Float := ofRatio (value < 0) value.natAbs 1

def ofNat (value : Nat) : Float := ofInt value

def ofBool (value : Bool) : Float := if value then 1 else 0

def ratio (number : Float) : Bool × Nat × Nat :=
  let bits := number.toBits.toNat
  let negative := Nat.pow 2 63 ≤ bits
  let exponent : Nat := bits / Nat.pow 2 52 % Nat.pow 2 11
  let fraction : Nat := bits % Nat.pow 2 52
  let parts : Binary64 := if exponent = 0 then ⟨fraction, -1074⟩
    else ⟨Nat.pow 2 52 + fraction, (exponent : Int) - 1075⟩
  let (num, den) := parts.toRatio
  (negative, num, den)

def isFinite (number : Float) : Bool := !number.isNaN && !number.isInf

def largest : Nat := Int32.maxValue.toInt.toNat

-- The size of a number without its fraction, at most as large as a bound.
def wholeSize (bound : Nat) (number : Float) : Nat :=
  if number.isInf then bound
  else
    let (_, num, den) := ratio number
    min (num / den) bound

-- A number without its fraction. One that is out of bounds is put to the bound, and what is no
-- number to the lower one.
def whole (number : Float) : Int :=
  if number.isNaN then -largest
  else if number < 0 then -(wholeSize largest number)
  else wholeSize largest number

def unsignedWhole (number : Float) : Int :=
  if number.isNaN || number < 0 then 0 else wholeSize (UInt32.size - 1) number

def truncated (number : Float) : Float :=
  if isFinite number then
    let (negative, num, den) := ratio number
    ofRatio negative (num / den) 1
  else number

def remainder (left right : Float) : Float :=
  if right == 0 || !isFinite left || right.isNaN then undefined
  else if right.isInf then left
  else
    let (negative, leftNum, leftDen) := ratio left
    let (_, rightNum, rightDen) := ratio right
    let num := leftNum * rightDen % (rightNum * leftDen)
    ofRatio negative num (leftDen * rightDen)

def isBlank (c : Char) : Bool := c == ' ' || (9 ≤ c.toNat && c.toNat ≤ 13)

def word? (text : List Char) : Option (Float × List Char) :=
  let letters := text.takeWhile Char.isAlpha
  let lower := String.ofList (letters.map Char.toLower)
  if lower.startsWith "infinity" then some (infinity, text.drop 8)
  else if lower.startsWith "inf" then some (infinity, text.drop 3)
  else if lower.startsWith "nan" then some (undefined, text.drop 3)
  else none

def hexadecimal? : List Char → Option (Float × List Char)
  | '0' :: x :: rest =>
      let digits := rest.takeWhile fun c => (Format.hexDigit? c).isSome
      if (x = 'x' || x = 'X') && !digits.isEmpty then
        let value := digits.foldl (fun value c => value * 16 + (Format.hexDigit? c).getD 0) 0
        some (ofNat value, rest.drop digits.length)
      else none
  | _ => none

def decimal? (text : List Char) : Option (Float × List Char) := do
  let scanned ← Format.scanDecimal? text
  let number := match Binary64.ofDecimal? scanned.coefficient scanned.exponent with
    | some number => Float.scaleB (Float.ofNat number.significand) number.exponent
    | none => infinity
  return (if scanned.negative then -number else number, scanned.rest)

def ofText (text : List Char) : Float :=
  let body := text.dropWhile isBlank
  let (negative, unsigned) := match body with
    | '-' :: rest => (true, rest)
    | '+' :: rest => (false, rest)
    | rest => (false, rest)
  match hexadecimal? unsigned <|> word? unsigned with
  | some (number, _) => if negative then -number else number
  | none => ((decimal? body).map (·.1)).getD 0

-- The number of a text that is nothing but a number. It has to end with a digit or a point.
def exactly? (text : List Char) : Option Float := do
  let body := (((text.dropWhile isBlank).reverse).dropWhile isBlank).reverse
  let last ← body.getLast?
  if !(last.isDigit || last == '.') then none
  let (number, rest) ← hexadecimal? body <|> decimal? body
  if rest.isEmpty then some number else none

def real (number : Float) : Conversion.Real :=
  if number.isNaN then .undefined true
  else if number.isInf then .infinite (number < 0)
  else
    let (negative, num, den) := ratio number
    .finite negative num den

def formatted (conversion : Conversion) (kind : Char) (number : Float) : List Char :=
  match kind with
  | 'd' | 'i' => conversion.signed (whole number)
  | 'u' | 'o' | 'x' | 'X' => conversion.unsigned kind (unsignedWhole number)
  | kind => conversion.real kind (real number)

def byFormat (format : List Char) (number : Float) : List Char :=
  let before := format.takeWhile (· != '%')
  match format.drop before.length with
  | [] => format
  | _ :: rest =>
      let (conversion, rest) := Conversion.flags {} rest
      let width := rest.takeWhile Char.isDigit
      let rest := rest.drop width.length
      let conversion := conversion.withWidth (Format.natOf width)
      let (conversion, rest) := match rest with
        | '.' :: rest =>
            let digits := rest.takeWhile Char.isDigit
            (conversion.withPrecision (Format.natOf digits), rest.drop digits.length)
        | rest => (conversion, rest)
      match rest with
      | kind :: rest => before ++ formatted conversion kind number ++ rest
      | [] => before

def toText (format : String) (number : Float) : String :=
  let value := whole number
  if isFinite number && ofInt value == number then toString value
  else String.ofList (byFormat format.toList number)

end Acceptance.Awk.Number
