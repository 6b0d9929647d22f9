import Acceptance.Toml.Value

namespace Acceptance.Toml

open Decimal (Binary64)

def ungroup? (isDigit : Char → Bool) (written : List Char) : Option (List Char) :=
  let groups := written.splitOn '_'
  if groups.all fun group => !group.isEmpty && group.all isDigit then some groups.flatten
  else none

def digitValue (c : Char) : Nat :=
  if c.isDigit then c.toNat - '0'.toNat
  else if c.isLower then c.toNat - 'a'.toNat + 10
  else c.toNat - 'A'.toNat + 10

def natural (base : Nat) (digits : List Char) : Nat :=
  digits.foldl (fun value c => value * base + digitValue c) 0

def isOctal (c : Char) : Bool := '0' ≤ c && c ≤ '7'
def isBinary (c : Char) : Bool := c == '0' || c == '1'
def isHex (c : Char) : Bool := c.isDigit || ('a' ≤ c && c ≤ 'f') || ('A' ≤ c && c ≤ 'F')

def unsigned : List Char → Bool × List Char
  | '-' :: rest => (true, rest)
  | '+' :: rest => (false, rest)
  | written => (false, written)

def decimal? (written : List Char) : Option (List Char) :=
  match ungroup? Char.isDigit written with
  | some ('0' :: _ :: _) => none
  | digits? => digits?

-- A base other than ten is announced by a letter and takes no sign.
def integer? : List Char → Option Int
  | '0' :: 'x' :: digits => (ungroup? isHex digits).map fun ds => (natural 16 ds : Int)
  | '0' :: 'o' :: digits => (ungroup? isOctal digits).map fun ds => (natural 8 ds : Int)
  | '0' :: 'b' :: digits => (ungroup? isBinary digits).map fun ds => (natural 2 ds : Int)
  | written =>
      let (negative, digits) := unsigned written
      (decimal? digits).map fun ds =>
        if negative then -(natural 10 ds : Int) else (natural 10 ds : Int)

def isExponentMark (c : Char) : Bool := c == 'e' || c == 'E'

def exponent? : List Char → Option Int
  | [] => some 0
  | _ :: written =>
      let (negative, digits) := unsigned written
      (ungroup? Char.isDigit digits).map fun ds =>
        if negative then -(natural 10 ds : Int) else (natural 10 ds : Int)

def fraction? : List Char → Option (List Char)
  | [] => some []
  | _ :: written => ungroup? Char.isDigit written

def finite? (negative : Bool) (written : List Char) : Option Quantity := do
  let mantissa := written.takeWhile (!isExponentMark ·)
  let exponent ← exponent? (written.dropWhile (!isExponentMark ·))
  let whole ← decimal? (mantissa.takeWhile (· != '.'))
  let fraction ← fraction? (mantissa.dropWhile (· != '.'))
  let coefficient := natural 10 (whole ++ fraction)
  match Binary64.ofDecimal? coefficient (exponent - fraction.length) with
  | some magnitude => return .finite negative magnitude
  | none => return .excessive

def quantity? (written : List Char) : Option Quantity :=
  let (negative, number) := unsigned written
  if number = ['i', 'n', 'f'] then some (.infinite negative)
  else if number = ['n', 'a', 'n'] then some .undefined
  else finite? negative number

end Acceptance.Toml
