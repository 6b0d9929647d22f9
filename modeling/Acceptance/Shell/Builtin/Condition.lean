import Acceptance.Shell.Builtin.Printing

namespace Acceptance.Shell.Builtin

open Action
open Kernel (Status Kind)

-- The builtin command `test`: conditions on texts, numbers and files.

inductive OperatorKind where
  | unary
  | binary
  | other
  deriving DecidableEq

def unaryOperators : List String :=
  ["-r", "-w", "-x", "-e", "-f", "-d", "-c", "-b", "-p", "-u", "-g", "-k", "-s", "-t", "-z", "-n",
    "-h", "-L", "-O", "-G", "-S"]

def binaryOperators : List String :=
  ["=", "!=", "<", ">", "-eq", "-ne", "-gt", "-ge", "-lt", "-le", "-nt", "-ot", "-ef"]

def operatorKind? (word : String) : Option OperatorKind :=
  if unaryOperators.contains word then some .unary
  else if binaryOperators.contains word then some .binary
  else if ["!", "-a", "-o", "(", ")"].contains word then some .other
  else none

-- The operator that the words start with, unless it has to be an operand.
def operatorAt? (words : List String) : Option (String × OperatorKind) := do
  let word ← words.head?
  let kind ← operatorKind? word
  let isOperand := match words.tail with
    | [] => true
    | [_] => false
    | next :: _ => operatorKind? next == some .binary
  if kind = .unary && isOperand then none
  else if word = "(" && words.tail.isEmpty then none
  else some (word, kind)

def isOperator (words : List String) (operator : String) : Bool :=
  match operatorAt? words with
  | some (word, _) => word == operator
  | none => false

def numberIn (word : String) : Action Int := do
  let text := word.toList.dropWhile Arithmetic.isSpace
  let digits := match text with
    | '-' :: rest | '+' :: rest => rest
    | rest => rest
  let number := digits.takeWhile Char.isDigit
  let value : Int := Format.natOf number
  let value := if text.head? = some '-' then -value else value
  if number.isEmpty || !(digits.drop number.length).all Arithmetic.isSpace ||
      Arithmetic.clamp value != value then
    fail ("Illegal number: " ++ word)
  else return value

def inspectAs (path : String) (follow : Bool) (holds : Status → Bool) : Action Bool := do
  match ← perform (.inspect path follow) with
  | .ok status => return holds status
  | .error _ => return false

def unaryTest (operator operand : String) : Action Bool := do
  match operator with
  | "-z" => return operand.isEmpty
  | "-n" => return !operand.isEmpty
  | "-t" =>
      let _ ← numberIn operand
      return false
  | "-e" | "-r" | "-w" | "-O" | "-G" => inspectAs operand true fun _ => true
  | "-x" => inspectAs operand true fun status =>
      status.kind == .directory || Entry.isRunnable status.mode
  | "-f" => inspectAs operand true fun status => status.kind == .file
  | "-d" => inspectAs operand true fun status => status.kind == .directory
  | "-c" => inspectAs operand true fun status => status.kind == .device
  | "-p" => inspectAs operand true fun status => status.kind == .pipe
  | "-s" => inspectAs operand true fun status => 0 < status.size
  | "-u" => inspectAs operand true fun status => status.mode &&& 0o4000 != 0
  | "-g" => inspectAs operand true fun status => status.mode &&& 0o2000 != 0
  | "-k" => inspectAs operand true fun status => status.mode &&& 0o1000 != 0
  | "-h" | "-L" => inspectAs operand false fun status => status.kind == .link
  | _ => return false

def sameFile (left right : String) : Action Bool := do
  match ← perform (.inspect left true), ← perform (.inspect right true) with
  | .ok left, .ok right => return left.identity == right.identity
  | _, _ => return false

def binaryTest (left operator right : String) : Action Bool := do
  let numeric (compare : Int → Int → Bool) : Action Bool := do
    let left ← numberIn left
    let right ← numberIn right
    return compare left right
  match operator with
  | "=" => return left == right
  | "!=" => return left != right
  | "<" => return decide (left < right)
  | ">" => return decide (right < left)
  | "-eq" => numeric fun left right => left == right
  | "-ne" => numeric fun left right => left != right
  | "-gt" => numeric fun left right => right < left
  | "-ge" => numeric fun left right => right ≤ left
  | "-lt" => numeric fun left right => left < right
  | "-le" => numeric fun left right => left ≤ right
  | "-ef" => sameFile left right
  | _ => return false

structure ConditionRules where
  disjunction : List String → Action (Bool × List String)
  negation : List String → Action (Bool × List String)

namespace ConditionRules

variable (rules : ConditionRules)

def primary (words : List String) : Action (Bool × List String) := do
  match words, operatorAt? words with
  | [], _ => return (false, [])
  | _ :: rest, some ("(", _) =>
      if isOperator rest ")" then return (false, rest)
      let (value, after) ← rules.disjunction rest
      if isOperator after.tail ")" then return (value, after.tail)
      fail "closing paren expected"
  | _ :: rest, some (operator, .unary) =>
      match rest with
      | [] => fail (operator ++ ": argument expected")
      | operand :: _ => return (← unaryTest operator operand, rest)
  | word :: rest, _ =>
      match operatorAt? rest with
      | some (operator, .binary) =>
          match rest.tail with
          | [] => fail (operator ++ ": argument expected")
          | right :: _ => return (← binaryTest word operator right, rest.tail)
      | _ => return (!word.isEmpty, words)

def readNegation (words : List String) : Action (Bool × List String) := do
  if isOperator words "!" then
    let rest := words.tail
    let (value, after) ← if rest.isEmpty then pure (false, words) else rules.negation rest
    return (!value, after)
  else rules.primary words

def conjunction : Nat → List String → Action (Bool × List String)
  | 0, words => return (false, words)
  | fuel + 1, words => do
      let (value, after) ← rules.readNegation words
      if isOperator after.tail "-a" then
        let (other, after) ← conjunction fuel (after.drop 2)
        return (value && other, after)
      else return (value, after)

def readDisjunction : Nat → List String → Action (Bool × List String)
  | 0, words => return (false, words)
  | fuel + 1, words => do
      let (value, after) ← rules.conjunction (words.length + 1) words
      if isOperator after.tail "-o" then
        let (other, after) ← readDisjunction fuel (after.drop 2)
        return (value || other, after)
      else return (value, after)

end ConditionRules

def conditionRules : Nat → ConditionRules
  | 0 => { disjunction := fun words => return (false, words)
           negation := fun words => return (false, words) }
  | depth + 1 => {
      disjunction := fun words => (conditionRules depth).readDisjunction (words.length + 1) words
      negation := fun words => (conditionRules depth).readNegation words }

def conditionOf (words : List String) : Action Bool := do
  let (value, after) ← (conditionRules (words.length + 2)).disjunction words
  match after with
  | word :: _ :: _ => fail (word ++ ": unexpected operator")
  | _ => return value

def decideCondition : Nat → List String → Action Bool
  | 0, _ => return false
  | _, [] => return false
  | fuel + 1, words => do
      let long : Action Bool := do
        if words.length = 3 || words.length = 4 then
          if words.head? = some "(" && words.getLast? = some ")" then
            conditionOf (words.drop 1).dropLast
          else if words.head? = some "!" then
            return !(← decideCondition fuel words.tail)
          else conditionOf words
        else conditionOf words
      match words with
      | [left, operator, right] =>
          if binaryOperators.contains operator then binaryTest left operator right else long
      | _ => long

def test (name : String) (arguments : List String) : Action Nat := do
  let words ← if name = "[" then
      if (arguments.getLast?.bind fun word => word.toList.head?) = some ']' then
        pure arguments.dropLast
      else fail "missing ]"
    else pure arguments
  return if ← decideCondition (words.length + 1) words then 0 else 1

end Acceptance.Shell.Builtin
