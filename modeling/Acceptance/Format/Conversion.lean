import Acceptance.Decimal.Layout
import Acceptance.Format.Escape

namespace Acceptance.Format

-- Conversions: how a format lays out one value, with flags, a width and a precision.

structure Conversion where
  left : Bool := false
  zero : Bool := false
  plus : Bool := false
  space : Bool := false
  alternate : Bool := false
  width : Nat := 0
  precision : Option Nat := none
  deriving Inhabited

namespace Conversion

def pad (conversion : Conversion) (text : List Char) : List Char :=
  let padding := List.replicate (conversion.width - text.length) ' '
  if conversion.left then text ++ padding else padding ++ text

def padDigits (conversion : Conversion) (zeros : Bool) (start digits : List Char) : List Char :=
  let filling := if zeros && conversion.zero && !conversion.left then
      List.replicate (conversion.width - start.length - digits.length) '0'
    else []
  conversion.pad (start ++ filling ++ digits)

def sign (conversion : Conversion) (negative : Bool) : List Char :=
  if negative then ['-'] else if conversion.plus then ['+']
  else if conversion.space then [' '] else []

def atLeast (conversion : Conversion) (isZero : Bool) (digits : List Char) : List Char :=
  if isZero && conversion.precision = some 0 then []
  else List.replicate (conversion.precision.getD 0 - digits.length) '0' ++ digits

def signed (conversion : Conversion) (value : Int) : List Char :=
  conversion.padDigits conversion.precision.isNone (conversion.sign (value < 0))
    (conversion.atLeast (value == 0) (Nat.toDigits 10 value.natAbs))

def unsigned (conversion : Conversion) (kind : Char) (value : Int) : List Char :=
  let value := (value % UInt64.size).toNat
  let base := if kind = 'o' then 8 else if kind = 'u' then 10 else 16
  let digits := conversion.atLeast (value == 0) (Nat.toDigits base value)
  let digits := if kind = 'X' then digits.map Char.toUpper else digits
  let digits := if kind = 'o' && conversion.alternate && digits.head? != some '0'
    then '0' :: digits else digits
  let start := if conversion.alternate && value != 0 && base == 16
    then ['0', kind] else []
  conversion.padDigits conversion.precision.isNone start digits

def string (conversion : Conversion) (text : List Char) : List Char :=
  conversion.pad (text.take (conversion.precision.getD text.length))

inductive Real where
  | finite (negative : Bool) (num den : Nat)
  | infinite (negative : Bool)
  | undefined (negative : Bool)

def real (conversion : Conversion) (kind : Char) (value : Real) : List Char :=
  let upper := kind.isUpper
  let word (text : String) : List Char :=
    text.toList.map fun c => if upper then c.toUpper else c
  match value with
  | .infinite negative => conversion.pad (conversion.sign negative ++ word "inf")
  | .undefined negative => conversion.pad (conversion.sign negative ++ word "nan")
  | .finite negative num den =>
      let precision := conversion.precision.getD 6
      let letter := if upper then 'E' else 'e'
      let digits := match kind.toLower with
        | 'f' => Decimal.fixedLayout precision conversion.alternate num den
        | 'e' => Decimal.scientificLayout letter precision conversion.alternate num den
        | _ => Decimal.generalLayout letter precision conversion.alternate num den
      conversion.padDigits true (conversion.sign negative) digits

def flags : Conversion → List Char → Conversion × List Char
  | conversion, '-' :: rest => flags { conversion with left := true } rest
  | conversion, '0' :: rest => flags { conversion with zero := true } rest
  | conversion, '+' :: rest => flags { conversion with plus := true } rest
  | conversion, ' ' :: rest => flags { conversion with space := true } rest
  | conversion, '#' :: rest => flags { conversion with alternate := true } rest
  | conversion, rest => (conversion, rest)

def withWidth (conversion : Conversion) (width : Int) : Conversion :=
  { conversion with width := width.natAbs, left := conversion.left || width < 0 }

def withPrecision (conversion : Conversion) (precision : Int) : Conversion :=
  { conversion with precision := if precision < 0 then none else some precision.toNat }

end Conversion

def natOf (digits : List Char) : Nat :=
  digits.foldl (fun value c => value * 10 + (c.toNat - 48)) 0

-- A decimal number at the start of a text: its sign, its digits as a whole number, a power of
-- ten, and what follows.
structure Scanned where
  negative : Bool
  coefficient : Nat
  exponent : Int
  rest : List Char

def scanExponent (text : List Char) : Int × List Char :=
  match text with
  | e :: rest =>
      if e = 'e' || e = 'E' then
        let (negative, digits) := match rest with
          | '-' :: rest => (true, rest)
          | '+' :: rest => (false, rest)
          | rest => (false, rest)
        let number := digits.takeWhile Char.isDigit
        if number.isEmpty then (0, text)
        else
          let value : Int := natOf (number.take 6)
          (if negative then -value else value, digits.drop number.length)
      else (0, text)
  | [] => (0, text)

def scanDecimal? (text : List Char) : Option Scanned :=
  let isSpace (c : Char) : Bool := c == ' ' || (9 ≤ c.toNat && c.toNat ≤ 13)
  let (negative, body) := match text.dropWhile isSpace with
    | '-' :: rest => (true, rest)
    | '+' :: rest => (false, rest)
    | rest => (false, rest)
  let whole := body.takeWhile Char.isDigit
  let afterWhole := body.drop whole.length
  let (fraction, rest) := match afterWhole with
    | '.' :: rest => (rest.takeWhile Char.isDigit, rest.dropWhile Char.isDigit)
    | rest => ([], rest)
  if whole.isEmpty && fraction.isEmpty then none
  else
    let (exponent, rest) := scanExponent rest
    some { negative, coefficient := natOf (whole ++ fraction)
           exponent := exponent - fraction.length, rest }

def Scanned.ratio (scanned : Scanned) : Nat × Nat :=
  if 0 ≤ scanned.exponent then
    (scanned.coefficient * Nat.pow 10 (min scanned.exponent.toNat 5000), 1)
  else (scanned.coefficient, Nat.pow 10 (min (-scanned.exponent).toNat 5000))

end Acceptance.Format
