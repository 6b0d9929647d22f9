import Acceptance.Format.Size
import Acceptance.Tools.Paths

namespace Acceptance.Tools

open Tool
open Kernel (Status Kind)

namespace Condition

-- The tool `test`: conditions on texts, numbers and files, given word by word.

structure Source where
  rest : List String
  last : String

abbrev Check := StateT Source Tool

def binaryOperators : List String :=
  ["=", "==", "!=", "-eq", "-ne", "-lt", "-le", "-gt", "-ge", "-nt", "-ot", "-ef"]

def unaryLetters : List Char := "bcdefghkLnNOGprsStuwxz".toList

def letter? (word : String) : Option Char :=
  match word.toList with
  | ['-', c] => some c
  | _ => none

def advance : Check Unit := modify fun source => { source with rest := source.rest.tail }

def missing {α : Type} : Check α := do die ("missing argument after " ++ quote (← get).last)

def next : Check String := do
  match (← get).rest with
  | word :: _ =>
      advance
      return word
  | [] => missing

def number (word : String) : Check Int := do
  let isBlank (c : Char) : Bool := c == ' ' || ('\t' ≤ c && c ≤ '\r')
  let text := word.toList.dropWhile isBlank
  let signed := text.head? == some '-' || text.head? == some '+'
  let body := if signed then text.tail else text
  let digits := body.takeWhile Char.isDigit
  if digits.isEmpty || !(body.drop digits.length).all isBlank then
    die ("invalid integer " ++ quote word)
  let value : Int := Format.natOf digits
  return if text.head? == some '-' then -value else value

def holdsOf (path : String) (follow : Bool) (holds : Status → Bool) : Check Bool := do
  match ← statusAt path follow with
  | .ok status => return holds status
  | .error _ => return false

def unary (letter : Char) (operand : String) : Check Bool :=
  match letter with
  | 'n' => return !operand.isEmpty
  | 'z' => return operand.isEmpty
  | 't' => do
      let _ ← number operand
      return false
  | 'h' | 'L' => holdsOf operand false fun status => status.kind == .link
  | 'e' | 'r' | 'w' | 'O' | 'G' => holdsOf operand true fun _ => true
  | 'x' => holdsOf operand true fun status =>
      status.kind == .directory || Entry.isRunnable status.mode
  | 'f' => holdsOf operand true fun status => status.kind == .file
  | 'd' => holdsOf operand true fun status => status.kind == .directory
  | 'c' => holdsOf operand true fun status => status.kind == .device
  | 'p' => holdsOf operand true fun status => status.kind == .pipe
  | 's' => holdsOf operand true fun status => 0 < status.size
  | 'u' => holdsOf operand true fun status => status.mode &&& 0o4000 != 0
  | 'g' => holdsOf operand true fun status => status.mode &&& 0o2000 != 0
  | 'k' => holdsOf operand true fun status => status.mode &&& 0o1000 != 0
  | _ => return false

def compareWith (operator left right : String) (leftNumber rightNumber : Check Int) :
    Check Bool :=
  let numeric (holds : Int → Int → Bool) : Check Bool := do
    let left ← leftNumber
    let right ← rightNumber
    return holds left right
  match operator with
  | "=" | "==" => return left == right
  | "!=" => return left != right
  | "-eq" => numeric fun left right => left == right
  | "-ne" => numeric fun left right => left != right
  | "-lt" => numeric fun left right => left < right
  | "-le" => numeric fun left right => left ≤ right
  | "-gt" => numeric fun left right => right < left
  | "-ge" => numeric fun left right => right ≤ left
  | "-ef" => do
      match ← statusAt left true, ← statusAt right true with
      | .ok left, .ok right => return left.identity == right.identity
      | _, _ => return false
  | _ => return false

def comparison (leftIsLength : Bool) : Check Bool := do
  if leftIsLength then advance
  let word ← next
  let operator ← next
  let rightIsLength := (← get).rest.head? == some "-l" && 2 ≤ (← get).rest.length
  if rightIsLength then advance
  let other ← next
  let size (isLength : Bool) (word : String) : Check Int :=
    if isLength then return word.length else number word
  compareWith operator word other (size leftIsLength word) (size rightIsLength other)

-- A test of one operand. An operator that is not known is complained about.
def single : Check Bool := do
  let operator ← next
  match letter? operator with
  | some letter =>
      if unaryLetters.contains letter then
        let operand ← next
        unary letter operand
      else die (quote operator ++ ": unary operator expected")
  | none => die (quote operator ++ ": unary operator expected")

def oneWord : Check Bool := return !(← next).isEmpty

def twoWords : Check Bool := do
  match (← get).rest with
  | "!" :: _ => do
      advance
      return !(← oneWord)
  | first :: _ =>
      if (letter? first).isSome then single else missing
  | [] => missing

mutual

def disjunction : Nat → Check Bool
  | 0 => return false
  | fuel + 1 => do
      let value ← conjunction fuel
      if (← get).rest.head? = some "-o" then
        advance
        let other ← disjunction fuel
        return value || other
      else return value

def conjunction : Nat → Check Bool
  | 0 => return false
  | fuel + 1 => do
      let value ← term fuel
      if (← get).rest.head? = some "-a" then
        advance
        let other ← conjunction fuel
        return value && other
      else return value

def term : Nat → Check Bool
  | 0 => return false
  | fuel + 1 => do
      match (← get).rest with
      | [] => missing
      | "!" :: _ =>
          advance
          return !(← term fuel)
      | "(" :: rest =>
          advance
          if rest.isEmpty then missing
          -- Up to four words in parentheses are read by the rules for so many words.
          let count := match (rest.drop 1).findIdx? (· == ")") with
            | some index => if index < 4 then index + 1 else rest.length
            | none => rest.length
          let value ← short fuel count
          match (← get).rest with
          | ")" :: _ =>
              advance
              return value
          | word :: _ => die ("')' expected, found " ++ quote word)
          | [] => die "')' expected"
      | first :: rest =>
          let isBinary (word : Option String) : Bool :=
            word.any fun word => binaryOperators.contains word
          if first = "-l" && 3 ≤ rest.length && isBinary rest[1]? then comparison true
          else if 2 ≤ rest.length && isBinary rest.head? then comparison false
          else if (letter? first).isSome then single
          else oneWord

def short : Nat → Nat → Check Bool
  | 0, _ => return false
  | fuel + 1, count => do
      let rest := (← get).rest
      match count, rest with
      | 1, _ => oneWord
      | 2, _ => twoWords
      | 3, first :: operator :: third :: _ =>
          if binaryOperators.contains operator then comparison false
          else if first = "!" then
            advance
            return !(← twoWords)
          else if first = "(" && third = ")" then
            advance
            let value ← oneWord
            advance
            return value
          else if operator = "-a" || operator = "-o" then disjunction fuel
          else die (quote operator ++ ": binary operator expected")
      | 4, first :: _ :: _ :: fourth :: _ =>
          if first = "!" then
            advance
            return !(← short fuel 3)
          else if first = "(" && fourth = ")" then
            advance
            let value ← twoWords
            advance
            return value
          else disjunction fuel
      | _, _ => disjunction fuel

end

-- The value of a condition, which has to use up all words.
def value (words : List String) : Tool Bool := do
  if words.isEmpty then return false
  let fuel := 4 * words.length + 8
  let (value, source) ← (short fuel words.length).run
    { rest := words, last := words.getLastD "" }
  match source.rest with
  | word :: _ => die ("extra argument " ++ quote word)
  | [] => return value

end Condition

def testTool (arguments : List String) : Tool Nat := do
  return if ← Condition.value arguments then 0 else 1

def bracketTool (arguments : List String) : Tool Nat := do
  if arguments.getLast? = some "]" then testTool arguments.dropLast
  else die "missing ']'"

end Acceptance.Tools
