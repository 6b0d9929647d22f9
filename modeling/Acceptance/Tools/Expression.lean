import Acceptance.Regex.Reader
import Acceptance.Tools.Options

namespace Acceptance.Tools

open Tool

-- The value of an expression that is given word by word.

structure Words where
  rest : List String
  last : String := ""

abbrev Evaluation := StateT Words Tool

namespace Evaluation

def peek : Evaluation (Option String) := return (← get).rest.head?

def skip : Evaluation Unit :=
  modify fun words => { rest := words.rest.tail, last := words.rest.headD "" }

def mistake {α : Type} (message : String) : Evaluation α := die ("syntax error: " ++ message)

def require : Evaluation String := do
  match ← peek with
  | some word => return word
  | none => mistake ("missing argument after " ++ quote (← get).last)

def integer? (text : String) : Option Int :=
  match text.toList with
  | '-' :: c :: rest =>
      if (c :: rest).all Char.isDigit then some (-(Format.natOf (c :: rest) : Int)) else none
  | [] => none
  | digits => if digits.all Char.isDigit then some (Format.natOf digits) else none

def isNull (text : String) : Bool :=
  match text.toList with
  | '-' :: c :: rest => (c :: rest).all (· == '0')
  | text => text.all (· == '0')

def integer (text : String) : Evaluation Int := do
  match integer? text with
  | some value => return value
  | none => die "non-integer argument"

def matchText (text pattern : String) : Evaluation String := do
  match Regex.compile {} pattern.toList with
  | .error cause => die cause.text
  | .ok compiled =>
      let subject := Subject.ofList text.toList
      match compiled.regex.matchAt subject 0 with
      | some found =>
          if compiled.groups = 0 then return toString found.finish
          match found.group? 1 with
          | some span => return String.ofList (subject.slice span.start span.finish)
          | none => return ""
      | none => return if compiled.groups = 0 then "0" else ""

def truth (value : Bool) : String := if value then "1" else "0"

def comparison? (operator left right : String) : Option Bool :=
  let order : Ordering := match integer? left, integer? right with
    | some a, some b => compare a b
    | _, _ => if left < right then .lt else if right < left then .gt else .eq
  match operator with
  | "<" => some (order == .lt)
  | "<=" => some (order != .gt)
  | "=" | "==" => some (order == .eq)
  | "!=" => some (order != .eq)
  | ">=" => some (order != .lt)
  | ">" => some (order == .gt)
  | _ => none

mutual

-- `active` tells whether the value counts; where it does not, nothing can go wrong.
def disjunction (active : Bool) : Nat → Evaluation String
  | 0 => return ""
  | fuel + 1 => do
      let first ← conjunction active fuel
      disjunctionRest active fuel first

def disjunctionRest (active : Bool) : Nat → String → Evaluation String
  | 0, value => return value
  | fuel + 1, value => do
      if (← peek) = some "|" then
        skip
        let other ← conjunction (active && isNull value) fuel
        let value := if !isNull value then value else if isNull other then "0" else other
        disjunctionRest active fuel value
      else return value

def conjunction (active : Bool) : Nat → Evaluation String
  | 0 => return ""
  | fuel + 1 => do
      let first ← relation active fuel
      conjunctionRest active fuel first

def conjunctionRest (active : Bool) : Nat → String → Evaluation String
  | 0, value => return value
  | fuel + 1, value => do
      if (← peek) = some "&" then
        skip
        let other ← relation (active && !isNull value) fuel
        conjunctionRest active fuel (if isNull value || isNull other then "0" else value)
      else return value

def relation (active : Bool) : Nat → Evaluation String
  | 0 => return ""
  | fuel + 1 => do
      let first ← sum active fuel
      relationRest active fuel first

def relationRest (active : Bool) : Nat → String → Evaluation String
  | 0, value => return value
  | fuel + 1, value => do
      match ← peek with
      | some operator =>
          if ["<", "<=", "=", "==", "!=", ">=", ">"].contains operator then
            skip
            let other ← sum active fuel
            relationRest active fuel (truth ((comparison? operator value other).getD false))
          else return value
      | none => return value

def sum (active : Bool) : Nat → Evaluation String
  | 0 => return ""
  | fuel + 1 => do
      let first ← product active fuel
      sumRest active fuel first

def sumRest (active : Bool) : Nat → String → Evaluation String
  | 0, value => return value
  | fuel + 1, value => do
      match ← peek with
      | some operator =>
          if operator = "+" || operator = "-" then
            skip
            let other ← product active fuel
            if !active then sumRest active fuel value
            else
              let left ← integer value
              let right ← integer other
              sumRest active fuel (toString (if operator = "+" then left + right else left - right))
          else return value
      | none => return value

def product (active : Bool) : Nat → Evaluation String
  | 0 => return ""
  | fuel + 1 => do
      let first ← matching active fuel
      productRest active fuel first

def productRest (active : Bool) : Nat → String → Evaluation String
  | 0, value => return value
  | fuel + 1, value => do
      match ← peek with
      | some operator =>
          if operator = "*" || operator = "/" || operator = "%" then
            skip
            let other ← matching active fuel
            if !active then productRest active fuel value
            else
              let left ← integer value
              let right ← integer other
              if operator != "*" && right = 0 then die "division by zero"
              productRest active fuel (toString (
                if operator = "*" then left * right
                else if operator = "/" then left.tdiv right else left.tmod right))
          else return value
      | none => return value

def matching (active : Bool) : Nat → Evaluation String
  | 0 => return ""
  | fuel + 1 => do
      let first ← function active fuel
      matchingRest active fuel first

def matchingRest (active : Bool) : Nat → String → Evaluation String
  | 0, value => return value
  | fuel + 1, value => do
      if (← peek) = some ":" then
        skip
        let pattern ← function active fuel
        matchingRest active fuel (← if active then matchText value pattern else pure value)
      else return value

def function (active : Bool) : Nat → Evaluation String
  | 0 => return ""
  | fuel + 1 => do
      match ← require with
      | "+" =>
          skip
          let word ← require
          skip
          return word
      | "length" =>
          skip
          let text ← function active fuel
          return toString text.length
      | "match" =>
          skip
          let text ← function active fuel
          let pattern ← function active fuel
          if active then matchText text pattern else return text
      | "index" =>
          skip
          let text ← function active fuel
          let letters ← function active fuel
          match text.toList.findIdx? fun c => letters.toList.contains c with
          | some index => return toString (index + 1)
          | none => return "0"
      | "substr" =>
          skip
          let text ← function active fuel
          let start ← function active fuel
          let count ← function active fuel
          match integer? start, integer? count with
          | some start, some count =>
              if start ≤ 0 || count ≤ 0 then return ""
              return String.ofList ((text.toList.drop (start.toNat - 1)).take count.toNat)
          | _, _ => return ""
      | "(" =>
          skip
          let value ← disjunction active fuel
          match ← peek with
          | some ")" =>
              skip
              return value
          | some word => mistake ("expecting ')' instead of " ++ quote word)
          | none => mistake ("expecting ')' after " ++ quote (← get).last)
      | ")" => mistake "unexpected ')'"
      | word =>
          skip
          return word

end

end Evaluation

def exprTool (arguments : List String) : Tool Nat := do
  let words := if arguments.head? = some "--" then arguments.tail else arguments
  if words.isEmpty then missingOperand
  let (value, left) ← (Evaluation.disjunction true (20 * words.length + 20)).run { rest := words }
  if let some word := left.rest.head? then
    die ("syntax error: unexpected argument " ++ quote word)
  say (value ++ "\n")
  return if Evaluation.isNull value then 1 else 0

end Acceptance.Tools
