import Acceptance.Editor.Basic
import Acceptance.Format.Conversion

namespace Acceptance.Editor

inductive Origin where
  | expression (number : Nat)
  | file (path : String)

structure Chunk where
  origin : Origin
  text : List Char

structure Cursor where
  origin : Origin
  rest : List Char
  column : Nat := 0
  line : Nat := 1
  later : List Chunk := []
  extended : Bool := false
  steps : List Step := []
  blocks : List Nat := []
  quiet : Bool := false

abbrev Reader := ExceptT String (StateM Cursor)

namespace Reader

def fail {α : Type} (message : String) : Reader α := throw message

def next? : Reader (Option Char) := do
  let cursor ← get
  match cursor.rest with
  | [] => return none
  | c :: rest =>
      set { cursor with
        rest, column := cursor.column + 1
        line := if c = '\n' then cursor.line + 1 else cursor.line }
      return some c

def back : Option Char → Reader Unit
  | none => return ()
  | some c => modify fun cursor => { cursor with
      rest := c :: cursor.rest, column := cursor.column - 1
      line := if c = '\n' then cursor.line - 1 else cursor.line }

def rest : Reader (List Char) := return (← get).rest

def skip (count : Nat) : Reader Unit := modify fun cursor =>
  let taken := cursor.rest.take count
  { cursor with
    rest := cursor.rest.drop count, column := cursor.column + taken.length
    line := cursor.line + taken.count '\n' }

def takeWhile (holds : Char → Bool) : Reader (List Char) := do
  let text := (← rest).takeWhile holds
  skip text.length
  return text

def isBlank (c : Char) : Bool := c == ' ' || c == '\t'

def nextNonblank? : Reader (Option Char) := do
  let _ ← takeWhile isBlank
  next?

def number : Reader Nat := return Format.natOf (← takeWhile Char.isDigit)

def endOfStep : Reader Unit := do
  let _ ← takeWhile fun c => Letters.isSpace c && c != '\n'
  let c ← next?
  match c with
  | none | some '\n' | some ';' => return ()
  | some '\x7d' | some '#' => back c
  | some _ => fail "extra characters after command"

def label : Reader String := do
  let _ ← takeWhile Letters.isSpace
  return String.ofList (← takeWhile fun c => !Letters.isSpace c && c != ';' && c != '\x7d')

def fileName : Reader String := do
  let _ ← takeWhile isBlank
  let name ← takeWhile (· != '\n')
  skip 1
  if name.isEmpty then fail "missing filename in r/R/w/W commands"
  return String.ofList name

def bracketRest : List Char → Nat → Option (List Char × List Char)
  | _, 0 => none
  | '[' :: mark :: rest, fuel + 1 =>
      if mark = ':' || mark = '.' || mark = '=' then
        let inner := rest.takeWhile (· != ']')
        match rest.drop inner.length with
        | ']' :: after => do
            let (text, after) ← bracketRest after fuel
            return ('[' :: mark :: (inner ++ ']' :: text), after)
        | _ => none
      else do
        let (text, after) ← bracketRest (mark :: rest) fuel
        return ('[' :: text, after)
  | ']' :: rest, _ => some ([']'], rest)
  | '\n' :: _, _ => none
  | '\\' :: 'n' :: rest, fuel + 1 => do
      let (text, after) ← bracketRest rest fuel
      return ('\n' :: text, after)
  | c :: rest, fuel + 1 => do
      let (text, after) ← bracketRest rest fuel
      return (c :: text, after)
  | [], _ => none

def bracket (text : List Char) : Option (List Char × List Char) :=
  let (start, rest) : List Char × List Char := match text with
    | '^' :: ']' :: rest => (['^', ']'], rest)
    | '^' :: rest => (['^'], rest)
    | ']' :: rest => ([']'], rest)
    | rest => ([], rest)
  (bracketRest rest (rest.length + 1)).map fun (inner, after) => (start ++ inner, after)

-- The text up to a mark, the mark included in what is read. If there is none, what is read
-- ends before the line does.
def delimited (mark : Char) (isRegex : Bool) : Nat → List Char → List Char →
    Option (List Char) × List Char
  | 0, _, text => (none, text)
  | _, _, [] => (none, [])
  | fuel + 1, read, c :: rest =>
      if c = '\n' then (none, c :: rest)
      else if c = mark then (some read.reverse, rest)
      else if c = '\\' then
        match rest with
        | [] => (none, [])
        | d :: rest =>
            if d = 'n' && isRegex && mark != 'n' then
          delimited mark isRegex fuel ('\n' :: read) rest
            else if d = '\n' then delimited mark isRegex fuel ('\n' :: read) rest
            else if d = mark && (isRegex || d != '&') then
              delimited mark isRegex fuel (d :: read) rest
            else delimited mark isRegex fuel (d :: '\\' :: read) rest
      else if c = '[' && isRegex then
        match bracket rest with
        | some (inner, after) =>
            delimited mark isRegex fuel (inner.reverse ++ '[' :: read) after
        | none => (none, rest.dropWhile (· != '\n'))
      else delimited mark isRegex fuel (c :: read) rest

def delimitedBy (mark : Char) (isRegex : Bool) : Reader (Option (List Char)) := do
  let text ← rest
  let (found, after) := delimited mark isRegex (text.length + 1) [] text
  skip (text.length - after.length)
  return found

def escape? : List Char → Option (Char × List Char)
  | 'a' :: rest => some (Char.ofNat 7, rest)
  | 'f' :: rest => some (Char.ofNat 12, rest)
  | 'n' :: rest => some ('\n', rest)
  | 'r' :: rest => some ('\r', rest)
  | 't' :: rest => some ('\t', rest)
  | 'v' :: rest => some (Char.ofNat 11, rest)
  | 'c' :: c :: rest => some (Char.ofNat (c.toUpper.toNat ^^^ 64), rest)
  | 'd' :: rest =>
      let (value, after) := Format.digits (fun c =>
        if c.isDigit then some (c.toNat - 48) else none) 10 3 0 rest
      if after.length < rest.length then some (Format.octet value, after) else none
  | 'o' :: rest =>
      let (value, after) := Format.octal 3 rest
      if after.length < rest.length then some (Format.octet value, after) else none
  | 'x' :: rest =>
      let (value, after) := Format.digits Format.hexDigit? 16 2 0 rest
      if after.length < rest.length then some (Format.octet value, after) else none
  | _ => none

def plainRegex : Nat → List Char → List Char
  | 0, text => text
  | fuel + 1, '\\' :: rest =>
      match escape? rest with
      | some (c, after) =>
          let special := "^$*.[]\\".toList.contains c
          (if special then ['\\', c] else [c]) ++ plainRegex fuel after
      | none => '\\' :: rest.take 1 ++ plainRegex fuel (rest.drop 1)
  | fuel + 1, c :: rest => c :: plainRegex fuel rest
  | _, [] => []

def compile (text : List Char) (caseless multiline : Bool) : Reader (Option Pattern) := do
  if text.isEmpty then return none
  let dialect : Regex.Dialect := { extended := (← get).extended }
  match Regex.compile dialect (plainRegex text.length text) with
  | .ok compiled =>
      return some { regex := compiled.regex, groups := compiled.groups, caseless, multiline }
  | .error cause => fail cause.text

def patternMarks : Reader (Bool × Bool) := do
  let marks := (← rest).takeWhile fun c => isBlank c || c == 'I' || c == 'M'
  let kept := (marks.reverse.dropWhile isBlank).reverse
  skip kept.length
  return (kept.contains 'I', kept.contains 'M')

def address? (c : Char) : Reader (Option Finish) := do
  if c = '/' || c = '\\' then
    let mark ← if c = '/' then pure (some c) else next?
    let text ← match mark with
      | some mark => delimitedBy mark true
      | none => pure none
    match text with
    | none => fail "unterminated address regex"
    | some text =>
        let (caseless, multiline) ← patternMarks
        return some (.address (.pattern (← compile text caseless multiline)))
  else if c.isDigit then
    back (some c)
    let first ← number
    let next ← nextNonblank?
    if next = some '~' then
      let _ ← takeWhile isBlank
      let step ← number
      return some (.address (if step = 0 then .line first else .every first step))
    back next
    return some (.address (.line first))
  else if c = '+' || c = '~' then
    let _ ← takeWhile isBlank
    let count ← number
    return some (if c = '+' then .after count else .multiple count)
  else if c = '$' then return some (.address .last)
  else return none

def selector (c : Char) : Reader (Selector × Option Char) := do
  match ← address? c with
  | none => return ({}, some c)
  | some (.after _) | some (.multiple _) =>
      fail "invalid usage of +N or ~N as first address"
  | some (.address start) =>
      let next ← nextNonblank?
      let (finish, next) : Option Finish × Option Char ←
        if next = some ',' then do
          let c ← nextNonblank?
          let finish ← match c with
            | some c => address? c
            | none => pure none
          match finish with
          | none => fail "unexpected `,'"
          | some finish => pure (some finish, ← nextNonblank?)
        else pure (none, next)
      let isZero := match start, finish with
        | .line 0, some (.address (.pattern _)) => false
        | .line 0, _ => true
        | _, _ => false
      if isZero then fail "invalid usage of line address 0"
      return ({ start := some start, finish }, next)

def textLines : Nat → List Char → Reader (List Char)
  | 0, read => return read.reverse
  | fuel + 1, read => do
      match ← next? with
      | none => return ('\n' :: read).reverse
      | some '\n' => return ('\n' :: read).reverse
      | some '\\' =>
          match ← next? with
          | none =>
              let cursor ← get
              match cursor.later with
              | [] => return ('\n' :: read).reverse
              | chunk :: later =>
                  set { cursor with
                    origin := chunk.origin, rest := chunk.text, column := 0, line := 1, later }
                  textLines fuel ('\n' :: read)
          | some c =>
              match escape? (c :: (← rest)) with
              | some (escaped, after) =>
                  skip ((← rest).length - after.length)
                  textLines fuel (escaped :: read)
              | none => textLines fuel (c :: read)
      | some c => textLines fuel (c :: read)

def restSize : Reader Nat := do
  let cursor ← get
  return cursor.rest.length + cursor.later.foldl (fun size chunk => size + chunk.text.length + 1) 1

def text : Reader (List Char) := do
  let missing := "expected \\ after `a', `c' or `i'"
  let c ← nextNonblank?
  match c with
  | none => fail missing
  | some '\\' =>
      let blanks := (← rest).takeWhile isBlank
      match (← rest).drop blanks.length with
      | '\n' :: _ => skip (blanks.length + 1)
      | [] =>
          let cursor ← get
          match cursor.later with
          | [] => return []
          | chunk :: later =>
              set { cursor with
                origin := chunk.origin, rest := chunk.text, column := 0, line := 1, later }
      | d :: _ =>
          -- The first character behind the backslash stands for itself.
          if blanks.isEmpty && d != '\\' then
            skip 1
            return ← textLines (← restSize) [d]
      textLines (← restSize) []
  | _ =>
      back c
      textLines (← restSize) []

def replacement (groups : Nat) : Nat → List Char → Reader (List Piece)
  | 0, _ => return []
  | _, [] => return []
  | fuel + 1, '&' :: rest => return .group 0 :: (← replacement groups fuel rest)
  | fuel + 1, '\\' :: c :: rest => do
      let piece? : Option Piece := match c with
        | 'L' => some (.casing .lower)
        | 'U' => some (.casing .upper)
        | 'E' => some (.casing .asGiven)
        | 'l' => some (.casing .nextLower)
        | 'u' => some (.casing .nextUpper)
        | c => if c.isDigit then some (.group (c.toNat - 48)) else none
      match piece?, escape? (c :: rest) with
      | some piece, _ => return piece :: (← replacement groups fuel rest)
      | none, some (escaped, after) => return .char escaped :: (← replacement groups fuel after)
      | none, none => return .char c :: (← replacement groups fuel rest)
  | fuel + 1, c :: rest => return .char c :: (← replacement groups fuel rest)

def highestGroup (pieces : List Piece) : Nat :=
  pieces.foldl (fun highest piece =>
    match piece with
    | .group number => max highest number
    | _ => highest) 0

structure Marks where
  number : Option Nat := none
  all : Bool := false
  prints : Bool := false
  caseless : Bool := false
  multiline : Bool := false
  file : Option String := none

def marks : Nat → Marks → Reader Marks
  | 0, found => return found
  | fuel + 1, found => do
      let c ← nextNonblank?
      match c with
      | none | some '\n' | some ';' => return found
      | some '\x7d' | some '#' =>
          back c
          return found
      | some 'i' | some 'I' => marks fuel { found with caseless := true }
      | some 'm' | some 'M' => marks fuel { found with multiline := true }
      | some 'p' =>
          if found.prints then fail "multiple `p' options to `s' command"
          marks fuel { found with prints := true }
      | some 'g' =>
          if found.all then fail "multiple `g' options to `s' command"
          marks fuel { found with all := true }
      | some 'w' => return { found with file := some (← fileName) }
      | some c =>
          if !c.isDigit then fail "unknown option to `s'"
          if found.number.isSome then fail "multiple number options to `s' command"
          back (some c)
          let count ← number
          if count = 0 then fail "number option to `s' command may not be zero"
          marks fuel { found with number := some count }

def substitution : Reader Action := do
  let unterminated := "unterminated `s' command"
  match ← next? with
  | none => fail unterminated
  | some mark =>
      let some pattern ← delimitedBy mark true | fail unterminated
      let some given ← delimitedBy mark false | fail unterminated
      let pieces ← replacement 0 (given.length + 1) given
      let marks ← marks ((← rest).length + 1) {}
      let pattern ← compile pattern marks.caseless marks.multiline
      let highest := highestGroup pieces
      if let some pattern := pattern then
        if pattern.groups < highest then
          fail ("invalid reference \\" ++ toString highest ++ " on `s' command's RHS")
      return .substitute
        { pattern, replacement := pieces, number := marks.number.getD 1, all := marks.all
          prints := marks.prints, file := marks.file }

def letters (mark : Char) : Nat → List Char → List Char
  | 0, _ => []
  | _, [] => []
  | fuel + 1, '\\' :: c :: rest =>
      if c = mark || c = '\\' then c :: letters mark fuel rest
      else
        match escape? (c :: rest) with
        | some (escaped, after) => escaped :: letters mark fuel after
        | none => c :: letters mark fuel rest
  | fuel + 1, c :: rest => c :: letters mark fuel rest

def letterExchange : Reader Action := do
  let unterminated := "unterminated `y' command"
  match ← next? with
  | none => fail unterminated
  | some mark =>
      let some left ← delimitedBy mark false | fail unterminated
      let some right ← delimitedBy mark false | fail unterminated
      let left := letters mark (left.length + 1) left
      let right := letters mark (right.length + 1) right
      if left.length != right.length then
        fail "strings for `y' command are different lengths"
      endOfStep
      -- Of several letters for one the last counts.
      return .exchangeLetters (left.zip right).reverse

def plain (action : Action) : Reader Action := do
  endOfStep
  return action

def jump (condition : Condition) : Reader Action := do
  let _ ← takeWhile isBlank
  let name ← takeWhile fun c => !Letters.isSpace c && c != ';' && c != '\x7d'
  return .jump condition (String.ofList name)

def argument? : Reader (Option Nat) := do
  let c ← nextNonblank?
  back c
  let found ← match c with
    | some c => if c.isDigit then some <$> number else pure none
    | none => pure none
  endOfStep
  return found

def action (selector : Selector) (c : Char) : Reader Action := do
  match c with
  | '{' =>
      modify fun cursor => { cursor with blocks := cursor.steps.length :: cursor.blocks }
      return .enter 0
  | '}' =>
      match (← get).blocks with
      | [] => fail "unexpected `\x7d'"
      | start :: blocks =>
          if selector.start.isSome then fail "\x7d doesn't want any addresses"
          endOfStep
          modify fun cursor =>
            let place := cursor.steps.length - 1 - start
            { cursor with
              blocks
              steps := cursor.steps.modify place fun step =>
                { step with action := .enter cursor.steps.length } }
          return .nothing
  | ':' =>
      if selector.start.isSome then fail ": doesn't want any addresses"
      let name ← label
      if name.isEmpty then fail "\":\" lacks a label"
      return .label name
  | 'b' => jump .always
  | 't' => jump .replaced
  | 'T' => jump .unreplaced
  | 's' => substitution
  | 'y' => letterExchange
  | 'a' => return .append (← text)
  | 'i' => return .insert (← text)
  | 'c' => return .change (← text)
  | 'r' => return .readFile (← fileName)
  | 'R' => return .readLine (← fileName)
  | 'w' => return .writeSpace (← fileName)
  | 'W' => return .writeLine (← fileName)
  | 'q' | 'Q' =>
      if selector.finish.isSome then fail "command only uses one address"
      return .quit ((← argument?).getD 0) (c == 'q')
  | 'l' => return .list (← argument?)
  | '=' => plain .number
  | 'd' => plain .delete
  | 'D' => plain .deleteLine
  | 'F' => plain .name
  | 'g' => plain .recall
  | 'G' => plain .recallAppended
  | 'h' => plain .keep
  | 'H' => plain .keepAppended
  | 'n' => plain .next
  | 'N' => plain .nextAppended
  | 'p' => plain .print
  | 'P' => plain .printLine
  | 'x' => plain .exchange
  | 'z' => plain .clear
  | 'v' =>
      let _ ← label
      return .nothing
  | c => fail ("unknown command: `" ++ c.toString ++ "'")

def comment : Reader Unit := do
  let cursor ← get
  let isFirst := cursor.column = 1 && cursor.steps.isEmpty && (match cursor.origin with
    | .expression number => number == 1
    | .file _ => true)
  let line ← takeWhile (· != '\n')
  if isFirst && line.head? = some 'n' then modify fun cursor => { cursor with quiet := true }

def step : Reader Unit := do
  let _ ← takeWhile fun c => Letters.isSpace c || c == ';'
  match ← next? with
  | none => return ()
  | some '#' => comment
  | some c =>
      let (selector, c) ← selector c
      let (negated, c) : Bool × Option Char ←
        if c = some '!' then do
          let _ ← takeWhile Letters.isSpace
          let c ← next?
          if c = some '!' then fail "multiple `!'s"
          pure (true, c)
        else pure (false, c)
      match c with
      | none => fail "missing command"
      | some c =>
          let selector := { selector with negated }
          let action ← action selector c
          modify fun cursor => { cursor with steps := { selector, action } :: cursor.steps }

def script : Nat → Reader Unit
  | 0 => return ()
  | fuel + 1 => do
      let cursor ← get
      match cursor.rest, cursor.later with
      | [], [] => return ()
      | [], chunk :: later =>
          set { cursor with
            origin := chunk.origin, rest := chunk.text, column := 0, line := 1, later }
          script fuel
      | _, _ =>
          step
          script fuel

end Reader

def Cursor.place (cursor : Cursor) (column line : Nat) : String :=
  match cursor.origin with
  | .expression number => s!"-e expression #{number}, char {column}: "
  | .file path => "file " ++ path ++ s!" line {line}: "

def Script.read (extended : Bool) (chunks : List Chunk) : Except String Script :=
  match chunks with
  | [] => .ok {}
  | chunk :: later =>
      let size := chunks.foldl (fun size chunk => size + chunk.text.length + 2) 0
      let (result, cursor) := (Reader.script size).run.run
        { origin := chunk.origin, rest := chunk.text, later, extended }
      match result with
      | .error message => .error (cursor.place cursor.column cursor.line ++ message)
      | .ok _ =>
          if !cursor.blocks.isEmpty then .error (cursor.place 0 0 ++ "unmatched `\x7b'")
          else .ok { steps := cursor.steps.reverse.toArray, quiet := cursor.quiet }

end Acceptance.Editor
