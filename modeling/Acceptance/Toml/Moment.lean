
namespace Acceptance.Toml

def pair? (tens ones : Char) : Option Nat :=
  if tens.isDigit && ones.isDigit then
    some ((tens.toNat - '0'.toNat) * 10 + (ones.toNat - '0'.toNat))
  else none

def isLeapYear (year : Nat) : Bool := year % 4 == 0 && (year % 100 != 0 || year % 400 == 0)

def daysIn (year month : Nat) : Nat :=
  if month = 2 then (if isLeapYear year then 29 else 28)
  else if month = 4 || month = 6 || month = 9 || month = 11 then 30
  else 31

def isDateOf (year month day : Nat) : Bool :=
  1 ≤ month && month ≤ 12 && 1 ≤ day && day ≤ daysIn year month

def afterDate? : List Char → Option (List Char)
  | y :: y' :: y'' :: y''' :: '-' :: m :: m' :: '-' :: d :: d' :: rest => do
      let century ← pair? y y'
      let year ← pair? y'' y'''
      let month ← pair? m m'
      let day ← pair? d d'
      if isDateOf (century * 100 + year) month day then some rest else none
  | _ => none

def afterFraction? : List Char → Option (List Char)
  | '.' :: d :: rest => if d.isDigit then some (rest.dropWhile Char.isDigit) else none
  | '.' :: [] => none
  | text => some text

def afterSeconds? : List Char → Option (List Char)
  | ':' :: s :: s' :: rest =>
      match pair? s s' with
      | some seconds => if seconds ≤ 60 then afterFraction? rest else none
      | none => none
  | ':' :: _ => none
  | text => some text

def afterMinutes? : List Char → Option (List Char)
  | h :: h' :: ':' :: m :: m' :: rest => do
      let hours ← pair? h h'
      let minutes ← pair? m m'
      if hours ≤ 23 && minutes ≤ 59 then some rest else none
  | _ => none

def afterTime? (text : List Char) : Option (List Char) := (afterMinutes? text).bind afterSeconds?

def isOffset : List Char → Bool
  | ['Z'] | ['z'] => true
  | sign :: rest => (sign == '+' || sign == '-') && afterMinutes? rest == some []
  | [] => false

def isMoment (text : List Char) : Bool :=
  match afterDate? text with
  | some [] => true
  | some (mark :: rest) =>
      (mark == 'T' || mark == 't' || mark == ' ') &&
        match afterTime? rest with
        | some [] => true
        | some offset => isOffset offset
        | none => false
  | none => afterTime? text == some []

end Acceptance.Toml
