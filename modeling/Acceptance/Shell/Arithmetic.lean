import Acceptance.Shell.Script

namespace Acceptance.Shell.Arithmetic

-- Arithmetic in 64 bits, with the operators of expressions and assignments to names.

inductive Failure where
  | malformed (message : String)
  | illegal (text : String)
  | fixed (name : String)

-- The values of names: how one is looked up, and what has been assigned, the last one first.
structure Names where
  lookup : String → Option String
  assigned : List (String × Int) := []

abbrev Eval := StateT Names (Except Failure)

def wrap (value : Int) : Int := Int.bmod value UInt64.size

def clamp (value : Int) : Int := max Int64.minValue.toInt (min value Int64.maxValue.toInt)

def digitOf (c : Char) : Nat :=
  if c.isDigit then c.toNat - 48
  else if 'a' ≤ c && c ≤ 'z' then c.toNat - 87
  else if 'A' ≤ c && c ≤ 'Z' then c.toNat - 55
  else 99

def number (text : List Char) : Nat × List Char :=
  let read (base : Nat) (text : List Char) : Nat × List Char :=
    let digits := text.takeWhile (digitOf · < base)
    (digits.foldl (fun value c => value * base + digitOf c) 0, text.drop digits.length)
  match text with
  | '0' :: x :: c :: rest =>
      if (x = 'x' || x = 'X') && digitOf c < 16 then read 16 (c :: rest)
      else read 8 text
  | '0' :: _ => read 8 text
  | _ => read 10 text

def isGap (c : Char) : Bool := c == ' ' || c == '\t' || c == '\n'

def isSpace (c : Char) : Bool := c == ' ' || (9 ≤ c.toNat && c.toNat ≤ 13)

def value? (text : String) : Option Int :=
  let text := text.toList.dropWhile isSpace
  let (negative, body) := match text with
    | '-' :: rest => (true, rest)
    | '+' :: rest => (false, rest)
    | _ => (false, text)
  if !(body.head?.any Char.isDigit) then
    if text.isEmpty then some 0 else none
  else
    let (size, rest) := number body
    let value : Int := if negative then -size else size
    if rest.all isSpace && clamp value == value then some value else none

inductive Token where
  | number (value : Int)
  | name (text : String)
  | sign (text : String)
  deriving DecidableEq

def signs : List String :=
  ["<<=", ">>=", "<<", ">>", "<=", ">=", "==", "!=", "&&", "||", "+=", "-=", "*=", "/=", "%=",
    "&=", "|=", "^=", "=", "<", ">", "&", "|", "^", "+", "-", "*", "/", "%", "!", "~", "(", ")",
    "?", ":"]

-- The tokens of an expression. A character that belongs to none of them ends the list with a sign
-- that no rule knows.
def tokens : Nat → List Char → List Token
  | 0, _ => []
  | _, [] => []
  | fuel + 1, c :: rest =>
      if isGap c then tokens fuel rest
      else if c.isDigit then
        let (value, rest) := number (c :: rest)
        .number (clamp value) :: tokens fuel rest
      else if isNameStart c then
        let name := (c :: rest).takeWhile isNamePart
        .name (String.ofList name) :: tokens fuel ((c :: rest).drop name.length)
      else
        match signs.find? fun sign => sign.toList.isPrefixOf (c :: rest) with
        | some sign => .sign sign :: tokens fuel ((c :: rest).drop sign.length)
        | none => [.sign ""]

def level? (sign : String) : Option Nat :=
  if sign = "*" || sign = "/" || sign = "%" then some 0
  else if sign = "+" || sign = "-" then some 1
  else if sign = "<<" || sign = ">>" then some 2
  else if sign = "<" || sign = ">" || sign = "<=" || sign = ">=" then some 3
  else if sign = "==" || sign = "!=" then some 4
  else if sign = "&" then some 5
  else if sign = "^" then some 6
  else if sign = "|" then some 7
  else none

def truth (holds : Bool) : Int := if holds then 1 else 0

def bits (value : Int) : UInt64 := UInt64.ofNat (value % UInt64.size).toNat

def ofBits (word : UInt64) : Int := wrap word.toNat

def apply (sign : String) (left right : Int) : Except Failure Int :=
  match sign with
  | "*" => .ok (wrap (left * right))
  | "/" =>
      if right = 0 then .error (.malformed "division by zero")
      else .ok (wrap (left.tdiv right))
  | "%" =>
      if right = 0 then .error (.malformed "division by zero")
      else .ok (left.tmod right)
  | "+" => .ok (wrap (left + right))
  | "-" => .ok (wrap (left - right))
  | "<<" => .ok (ofBits (bits left <<< bits right))
  | ">>" => .ok (left >>> (bits right % 64).toNat)
  | "<" => .ok (truth (left < right))
  | ">" => .ok (truth (right < left))
  | "<=" => .ok (truth (left ≤ right))
  | ">=" => .ok (truth (right ≤ left))
  | "==" => .ok (truth (left = right))
  | "!=" => .ok (truth (left ≠ right))
  | "&" => .ok (ofBits (bits left &&& bits right))
  | "^" => .ok (ofBits (bits left ^^^ bits right))
  | "|" => .ok (ofBits (bits left ||| bits right))
  | _ => .ok right

def malformed {α : Type} (message : String) : Eval α := throw (.malformed message)

def valueOf (name : String) : Eval Int := do
  let names ← get
  match names.assigned.lookup name with
  | some value => return value
  | none =>
      match names.lookup name with
      | some text =>
          match value? text with
          | some value => return value
          | none => throw (.illegal text)
      | none => return 0

def assign (name : String) (value : Int) : Eval Unit :=
  modify fun names => { names with assigned := (name, value) :: names.assigned }

structure Rules where
  assignment : (idle : Bool) → List Token → Eval (Int × List Token)
  unary : (idle : Bool) → List Token → Eval (Int × List Token)

namespace Rules

variable (rules : Rules)

def primary (idle : Bool) : List Token → Eval (Int × List Token)
  | .number value :: rest => return (value, rest)
  | .name name :: rest => do
      if idle then return (0, rest)
      return (← valueOf name, rest)
  | .sign "(" :: rest => do
      match ← rules.assignment idle rest with
      | (value, .sign ")" :: rest) => return (value, rest)
      | _ => malformed "expecting ')'"
  | .sign sign :: rest => do
      if ["+", "-", "!", "~"].contains sign then
        let (value, rest) ← rules.unary idle rest
        let value := match sign with
          | "-" => wrap (-value)
          | "!" => truth (value = 0)
          | "~" => -value - 1
          | _ => value
        return (value, rest)
      else malformed "expecting primary"
  | [] => malformed "expecting primary"

def operators (idle : Bool) : Nat → Nat → Int → List Token → Eval (Int × List Token)
  | 0, _, left, rest => return (left, rest)
  | fuel + 1, limit, left, .sign sign :: rest => do
      match level? sign with
      | none => return (left, .sign sign :: rest)
      | some level =>
          if limit < level then return (left, .sign sign :: rest)
          let (right, rest) ← rules.primary idle rest
          let (right, rest) ← if level = 0 then pure (right, rest)
            else operators idle fuel (level - 1) right rest
          let value ← if idle then pure 0 else
            match apply sign left right with
            | .ok value => pure value
            | .error failure => throw failure
          operators idle fuel limit value rest
  | _, _, left, rest => return (left, rest)

def binary (idle : Bool) (tokens : List Token) : Eval (Int × List Token) := do
  let (left, rest) ← rules.primary idle tokens
  rules.operators idle (2 * tokens.length + 2) 7 left rest

def conjunction (idle : Bool) : Nat → List Token → Eval (Int × List Token)
  | 0, _ => malformed "expecting primary"
  | fuel + 1, tokens => do
      let (left, rest) ← rules.binary idle tokens
      match rest with
      | .sign "&&" :: rest =>
          let (right, rest) ← conjunction (idle || left == 0) fuel rest
          return (truth (left ≠ 0 ∧ right ≠ 0), rest)
      | _ => return (left, rest)

def disjunction (idle : Bool) : Nat → List Token → Eval (Int × List Token)
  | 0, _ => malformed "expecting primary"
  | fuel + 1, tokens => do
      let (left, rest) ← rules.conjunction idle fuel tokens
      match rest with
      | .sign "||" :: rest =>
          let (right, rest) ← disjunction (idle || left != 0) fuel rest
          return (truth (left ≠ 0 ∨ right ≠ 0), rest)
      | _ => return (left, rest)

def conditional (idle : Bool) : Nat → List Token → Eval (Int × List Token)
  | 0, _ => malformed "expecting primary"
  | fuel + 1, tokens => do
      let (test, rest) ← rules.disjunction idle (tokens.length + 1) tokens
      match rest with
      | .sign "?" :: rest =>
          let (yes, rest) ← rules.assignment (idle || test == 0) rest
          match rest with
          | .sign ":" :: rest =>
              let (no, rest) ← conditional (idle || test != 0) fuel rest
              return (if test ≠ 0 then yes else no, rest)
          | _ => malformed "expecting ':'"
      | _ => return (test, rest)

def assignmentSigns : List String :=
  ["=", "+=", "-=", "*=", "/=", "%=", "<<=", ">>=", "&=", "|=", "^="]

def readAssignment (idle : Bool) (tokens : List Token) : Eval (Int × List Token) := do
  let plain := rules.conditional idle (tokens.length + 1) tokens
  match tokens with
  | .name name :: .sign sign :: rest =>
      if !assignmentSigns.contains sign then plain
      else
        let (right, rest) ← rules.assignment idle rest
        if idle then return (right, rest)
        let value ← if sign = "=" then pure right else do
          match apply (sign.dropEnd 1).toString (← valueOf name) right with
          | .ok value => pure value
          | .error failure => throw failure
        assign name value
        return (value, rest)
  | _ => plain

def readUnary (idle : Bool) (tokens : List Token) : Eval (Int × List Token) :=
  rules.primary idle tokens

end Rules

def rulesFor : Nat → Rules
  | 0 => { assignment := fun _ _ => malformed "expecting primary"
           unary := fun _ _ => malformed "expecting primary" }
  | depth + 1 => {
      assignment := fun idle tokens => (rulesFor depth).readAssignment idle tokens
      unary := fun idle tokens => (rulesFor depth).readUnary idle tokens }

-- The value of an expression, and the assignments it makes, the first one first.
def evaluate (lookup : String → Option String) (text : List Char) :
    Except Failure (Int × List (String × Int)) := do
  let tokens := tokens (text.length + 1) text
  let action : Eval Int := do
    let (value, rest) ← (rulesFor (tokens.length + 1)).readAssignment false tokens
    if rest.isEmpty then return value else malformed "expecting EOF"
  let (value, names) ← action.run { lookup }
  return (value, names.assigned.reverse)

end Acceptance.Shell.Arithmetic
