import Acceptance.Format.Conversion
import Acceptance.Regex.Search

namespace Acceptance.Regex

inductive Fault where
  | invalid
  | badCollation
  | badClass
  | trailingBackslash
  | badReference
  | openBracket
  | openGroup
  | openInterval
  | badInterval
  | badRange
  | tooLarge
  | badRepetition
  | strayGroupEnd
  | bareClass
  deriving DecidableEq

namespace Fault

def text : Fault → String
  | .invalid => "Invalid regular expression"
  | .badCollation => "Invalid collation character"
  | .badClass => "Invalid character class name"
  | .trailingBackslash => "Trailing backslash"
  | .badReference => "Invalid back reference"
  | .openBracket => "Unmatched [, [^, [:, [., or [="
  | .openGroup => "Unmatched ( or \\("
  | .openInterval => "Unmatched \\\x7b"
  | .badInterval => "Invalid content of \\\x7b\\\x7d"
  | .badRange => "Invalid range end"
  | .tooLarge => "Regular expression too big"
  | .badRepetition => "Invalid preceding regular expression"
  | .strayGroupEnd => "Unmatched ) or \\)"
  | .bareClass => "character class syntax is [[:space:]], not [:space:]"

end Fault

structure Dialect where
  extended : Bool := false
  lenient : Bool := false
  checksClasses : Bool := false
  bracketEscapes : Bool := false
  references : Bool := true
  intervals : Bool := true

def untilMark (mark : Char) : List Char → Option (List Char × List Char)
  | [] => none
  | c :: rest =>
      if c = mark && rest.head? = some ']' then some ([], rest.tail)
      else do
        let (text, rest) ← untilMark mark rest
        return (c :: text, rest)

inductive Member where
  | single (c : Char)
  | several (holds : Char → Bool)

def bracketEscape? (c : Char) : Option Char :=
  if c = ']' || c = '-' || c = '/' || c = '"' then some c else Format.control? c

def readMember (dialect : Dialect) : List Char → Except Fault (Member × List Char)
  | '[' :: ':' :: rest => do
      let some (name, rest) := untilMark ':' rest | throw .openBracket
      match Letters.class? (String.ofList name) with
      | some holds => return (.several holds, rest)
      | none => throw .badClass
  | '[' :: '=' :: rest => do
      let some (name, rest) := untilMark '=' rest | throw .openBracket
      match name with
      | [c] => return (.several (· == c), rest)
      | _ => throw .badCollation
  | '[' :: '.' :: rest => do
      let some (name, rest) := untilMark '.' rest | throw .openBracket
      match name with
      | [c] => return (.single c, rest)
      | _ => throw .badCollation
  | '\\' :: c :: rest =>
      match if dialect.bracketEscapes then bracketEscape? c else none with
      | some control => .ok (.single control, rest)
      | none => .ok (.single '\\', c :: rest)
  | c :: rest => .ok (.single c, rest)
  | [] => .error .openBracket

def readMembers (dialect : Dialect) : Nat → Bool → (Char → Bool) → List Char →
    Except Fault ((Char → Bool) × List Char)
  | 0, _, _, _ => .error .openBracket
  | fuel + 1, first, holds, text => do
      match text with
      | [] => throw .openBracket
      | c :: rest =>
          if c = ']' && !first then return (holds, rest)
          let (member, rest) ← readMember dialect text
          match member, rest with
          | .single low, '-' :: next :: more =>
              if next = ']' then
                readMembers dialect fuel false (fun c => holds c || c == low) rest
              else
                let (finish, rest) ← readMember dialect (next :: more)
                match finish with
                | .single high =>
                    if high < low then throw .badRange
                    readMembers dialect fuel false
                      (fun c => holds c || (low ≤ c && c ≤ high)) rest
                | .several _ => throw .badRange
          | .single low, rest =>
              readMembers dialect fuel false (fun c => holds c || c == low) rest
          | .several others, rest =>
              readMembers dialect fuel false (fun c => holds c || others c) rest

def readBracket (dialect : Dialect) (text : List Char) : Except Fault (Regex × List Char) := do
  let (negated, body) := match text with
    | '^' :: rest => (true, rest)
    | rest => (false, rest)
  if body.isEmpty then throw .invalid
  let (holds, rest) ← readMembers dialect (body.length + 1) true (fun _ => false) body
  let content := body.take (body.length - rest.length - 1)
  if dialect.checksClasses && !negated && 2 < content.length &&
      content.head? = some ':' && content.getLast? = some ':' then throw .bareClass
  return (.one (if negated then (fun c => !holds c) else holds), rest)

inductive Token where
  | atom (regex : Regex)
  | reference (number : Nat)
  | opening
  | closing
  | bar
  | star
  | plus
  | option
  | interval
  | start
  | finish

def escaped (dialect : Dialect) (c : Char) : Token :=
  let plain : Token := .atom (.one (· == c))
  if !dialect.references then plain
  else
    match c with
    | 'w' => .atom (.one Letters.isWord)
    | 'W' => .atom (.one fun c => !Letters.isWord c)
    | 's' => .atom (.one Letters.isSpace)
    | 'S' => .atom (.one fun c => !Letters.isSpace c)
    | 'b' => .atom (.anchor .boundary)
    | 'B' => .atom (.anchor .noBoundary)
    | '<' => .atom (.anchor .wordStart)
    | '>' => .atom (.anchor .wordEnd)
    | '`' => .atom (.anchor .textStart)
    | '\'' => .atom (.anchor .textEnd)
    | c => if '1' ≤ c && c ≤ '9' then .reference (c.toNat - 48) else plain

def mark? : Char → Option Token
  | '(' => some .opening
  | ')' => some .closing
  | '|' => some .bar
  | '+' => some .plus
  | '?' => some .option
  | '{' => some .interval
  | _ => none

-- Whether an expression ends here, so that a dollar sign before it is an anchor.
def endsHere : List Char → Bool
  | [] => true
  | '\\' :: ')' :: _ | '\\' :: '|' :: _ => true
  | _ => false

def readToken (dialect : Dialect) (atStart : Bool) (c : Char) (rest : List Char) :
    Except Fault (Token × List Char) :=
  match c with
  | '\\' =>
      match rest with
      | [] => .error .trailingBackslash
      | next :: rest =>
          match mark? next with
          | some token =>
              if dialect.extended || (next = '{' && atStart && dialect.lenient) then
                .ok (.atom (.one (· == next)), rest)
              else .ok (token, rest)
          | none => .ok (escaped dialect next, rest)
  | '[' => do
      let (regex, rest) ← readBracket dialect rest
      return (.atom regex, rest)
  | '.' => .ok (.atom (.one fun _ => true), rest)
  | '*' =>
      if atStart && !dialect.extended then .ok (.atom (.one (· == '*')), rest)
      else .ok (.star, rest)
  | '^' => if dialect.extended || atStart then .ok (.start, rest)
      else .ok (.atom (.one (· == '^')), rest)
  | '$' => if dialect.extended || endsHere rest then .ok (.finish, rest)
      else .ok (.atom (.one (· == '$')), rest)
  | c =>
      match if dialect.extended && (c != '{' || dialect.intervals) then mark? c else none with
      | some token => .ok (token, rest)
      | none => .ok (.atom (.one (· == c)), rest)

def repetitionLimit : Nat := 32767

structure Bounds where
  least : Nat
  most : Option Nat

def closesInterval (dialect : Dialect) : List Char → Bool
  | '}' :: rest => dialect.extended || closesInterval dialect rest
  | '\\' :: '}' :: rest => !dialect.extended || closesInterval dialect rest
  | _ :: rest => closesInterval dialect rest
  | [] => false

def readBounds (dialect : Dialect) (text : List Char) : Except Fault (Option Bounds × List Char) :=
  let low := text.takeWhile Char.isDigit
  let rest := text.drop low.length
  let (hasComma, high, rest) := match rest with
    | ',' :: rest =>
        let high := rest.takeWhile Char.isDigit
        (true, high, rest.drop high.length)
    | rest => (false, [], rest)
  let closed := match rest with
    | '}' :: rest => if dialect.extended then some rest else none
    | '\\' :: '}' :: rest => if dialect.extended then none else some rest
    | _ => none
  let problem (fault : Fault) : Except Fault (Option Bounds × List Char) :=
    if dialect.extended && dialect.lenient then .ok (none, text) else .error fault
  match closed with
  | none => problem (if closesInterval dialect rest then .badInterval else .openInterval)
  | some rest =>
      if low.isEmpty && !hasComma then problem .badInterval
      else
        let least := Format.natOf low
        let most := if !hasComma then some least
          else if high.isEmpty then none else some (Format.natOf high)
        if most.any (· < least) then .error .badInterval
        else if repetitionLimit < least || most.any (repetitionLimit < ·) then .error .tooLarge
        else .ok (some { least, most }, rest)

-- What has been read of a sequence: the parts before, and the last part, which a repetition would
-- apply to.
structure Sequence where
  done : Regex := .empty
  last : Option Regex := none

namespace Sequence

def all (parts : Sequence) : Regex :=
  match parts.last with
  | some last =>
      match parts.done with
      | .empty => last
      | done => .sequence done last
  | none => parts.done

def add (parts : Sequence) (regex : Regex) : Sequence :=
  { done := parts.all, last := some regex }

end Sequence

-- How an expression is read: the rest, how many groups have been opened and which are complete,
-- and the repetitions that had nothing to repeat, the latest first.
structure Reading where
  rest : List Char
  groups : Nat := 0
  complete : List Nat := []
  idle : List String := []

def Sequence.repeated (parts : Sequence) (dialect : Dialect) (bounds : Bounds) :
    Except Fault Sequence :=
  match parts.last with
  | some last => .ok { parts with last := some (.many last bounds.least bounds.most) }
  | none =>
      if dialect.lenient then .ok { parts with last := some .empty }
      else .error .badRepetition

-- Whether a repetition would have nothing but a start to repeat.
def Sequence.hasNothing (parts : Sequence) : Bool :=
  match parts.last with
  | none | some (.anchor .lineStart) => true
  | _ => false

mutual

def readChoice (dialect : Dialect) : Nat → Nat → Reading → Except Fault (Regex × Reading)
  | 0, _, _ => .error .tooLarge
  | fuel + 1, depth, reading => do
      let (first, reading) ← readSequence dialect fuel depth {} true reading
      match reading.rest with
      | '|' :: rest =>
          if dialect.extended then
            let (second, reading) ← readChoice dialect fuel depth { reading with rest }
            return (.choice first second, reading)
          else return (first, reading)
      | '\\' :: '|' :: rest =>
          if dialect.extended then return (first, reading)
          else
            let (second, reading) ← readChoice dialect fuel depth { reading with rest }
            return (.choice first second, reading)
      | _ => return (first, reading)

def readSequence (dialect : Dialect) : Nat → Nat → Sequence → Bool → Reading →
    Except Fault (Regex × Reading)
  | 0, _, _, _, _ => .error .tooLarge
  | fuel + 1, depth, parts, atStart, reading => do
      match reading.rest with
      | [] => return (parts.all, reading)
      | c :: rest =>
          let (token, after) ← readToken dialect atStart c rest
          let next := { reading with rest := after }
          let continue_ (parts : Sequence) (reading : Reading) :=
            readSequence dialect fuel depth parts false reading
          let marked (mark : String) (reading : Reading) : Reading :=
            if parts.hasNothing then { reading with idle := mark :: reading.idle } else reading
          match token with
          | .atom regex => continue_ (parts.add regex) next
          | .reference number =>
              if reading.complete.contains number then continue_ (parts.add (.again number)) next
              else throw .badReference
          | .bar => return (parts.all, reading)
          | .closing =>
              if depth != 0 then return (parts.all, reading)
              else if dialect.lenient && dialect.extended then
                continue_ (parts.add (.one (· == ')'))) next
              else throw .strayGroupEnd
          | .opening =>
              let number := reading.groups + 1
              let (body, inner) ← readChoice dialect fuel (depth + 1)
                { next with groups := number }
              let rest ← match inner.rest with
                | ')' :: rest => if dialect.extended then pure rest else throw .openGroup
                | '\\' :: ')' :: rest => if dialect.extended then throw .openGroup else pure rest
                | _ => throw .openGroup
              continue_ (parts.add (.group number body))
                { inner with rest, complete := number :: inner.complete }
          | .start =>
              let parts := parts.add (.anchor .lineStart)
              if dialect.extended then continue_ parts next
              else readSequence dialect fuel depth parts true next
          | .finish => continue_ (parts.add (.anchor .lineEnd)) next
          | .star => continue_ (← parts.repeated dialect ⟨0, none⟩) (marked "*" next)
          | .plus => continue_ (← parts.repeated dialect ⟨1, none⟩) (marked "+" next)
          | .option => continue_ (← parts.repeated dialect ⟨0, some 1⟩) (marked "?" next)
          | .interval =>
              let (bounds, rest) ← readBounds dialect after
              match bounds with
              | some bounds =>
                  continue_ (← parts.repeated dialect bounds)
                    (marked "\x7b...\x7d" { reading with rest })
              | none => continue_ (parts.add (.one (· == '{'))) next

end

structure Compiled where
  regex : Regex
  groups : Nat
  idle : List String := []

def compile (dialect : Dialect) (text : List Char) : Except Fault Compiled := do
  let (regex, reading) ← readChoice dialect (2 * text.length + 2) 0 { rest := text }
  return { regex, groups := reading.groups, idle := reading.idle.reverse }

end Acceptance.Regex
