import Acceptance.Kernel.Schedule

namespace Acceptance.Tools

open Kernel (Program Call Settings Opening Turn rounds endless)
open Text (Bytes)

-- What tools have in common: output that is collected and written in larger pieces, messages, and
-- reading files as a whole or line by line.

structure Desk where
  name : String
  settings : Settings := []
  pending : List (List Char) := []
  size : Nat := 0
  trouble : Nat := 1
  outputFault : String := "write error"
  signsHints : Bool := false
  usage : String := ""
  status : Nat := 0
  labour : Nat := 0

abbrev Tool := ExceptT Nat (StateT Desk Program)

namespace Tool

def ask (call : Call) : Tool call.Answer := ExceptT.lift (StateT.lift (Program.call call))

def lift {α : Type} (program : Program α) : Tool α := ExceptT.lift (StateT.lift program)

def quit {α : Type} (status : Nat) : Tool α := throw status

def stretch : Nat := 16

-- The time that a stretch takes, in microseconds. After a million rounds a loop is held to be
-- without end, and its time passes quickly.
def stretchTime (labour : Nat) : Nat := if labour < 1000000 then stretch else 1000

def toil : Tool Unit := do
  modify fun desk => { desk with labour := desk.labour + 1 }
  let labour := (← get).labour
  if labour % stretch = 0 then ask (.work (stretchTime labour))

def writeTo (descriptor : Nat) (text : List Char) : Tool (Except IoError Unit) :=
  rounds (fun _ => .ok ()) (fun (rest : Bytes) => do
    if rest.isEmpty then return .finished (.ok ())
    match ← ask (.write descriptor rest) with
    | .ok count => return .again (rest.drop count)
    | .error .interrupted => return .again rest
    | .error cause => return .finished (.error cause)) endless (Text.toBytes text)

def drain : Tool (Except IoError Unit) := do
  let desk ← get
  if desk.size = 0 then return .ok ()
  set { desk with pending := [], size := 0 }
  writeTo 1 desk.pending.reverse.flatten

def tell (text : String) : Tool Unit := do
  let _ ← writeTo 2 text.toList

def remark (text : String) : Tool Unit := do
  let _ ← drain
  tell text

def warn (message : String) : Tool Unit := do
  remark ((← get).name ++ ": " ++ message ++ "\n")

def setStatus (status : Nat) : Tool Unit := modify fun desk => { desk with status }

def fault (message : String) : Tool Unit := do
  warn message
  modify fun desk => { desk with status := desk.trouble }

def die {α : Type} (message : String) : Tool α := do
  warn message
  quit (← get).trouble

def flush : Tool Unit := do
  match ← drain with
  | .ok _ => pure ()
  | .error cause => die ((← get).outputFault ++ ": " ++ cause.description)

def bufferSize : Nat := 4096

def put (text : List Char) : Tool Unit := do
  modify fun desk => { desk with
    pending := text :: desk.pending, size := desk.size + text.length }
  if bufferSize ≤ (← get).size then flush

def say (text : String) : Tool Unit := put text.toList

def putLine (text : List Char) : Tool Unit := put (text ++ ['\n'])

def setting? (name : String) : Tool (Option String) := return (← get).settings.lookup name

def process (desk : Desk) (tool : Tool Nat) : Program Nat := do
  let (result, desk) ← tool.run.run desk
  let status := match result with
    | .ok status | .error status => status
  let (result, _) ← (flush.run).run desk
  return match result with
    | .ok _ => status
    | .error status => status

def blockSize : Nat := 65536

def readBlock (descriptor count : Nat) : Tool (Except IoError (List Char)) :=
  rounds (fun _ => .ok []) (fun _ => do
    match ← ask (.read descriptor count) with
    | .ok bytes => return .finished (.ok (Text.ofBytes bytes))
    | .error .interrupted => return .again ()
    | .error cause => return .finished (.error cause)) endless ()

def readAll (descriptor : Nat) : Tool (Except IoError (List Char)) :=
  rounds (fun _ => .ok []) (fun (blocks : List (List Char)) => do
    match ← readBlock descriptor blockSize with
    | .ok block =>
        if block.isEmpty then return .finished (.ok blocks.reverse.flatten)
        else return .again (block :: blocks)
    | .error cause => return .finished (.error cause)) endless []

def openInput (path : String) : Tool (Except IoError Nat) :=
  if path = "-" then return .ok 0 else ask (.open path .forReading)

def closeInput (descriptor : Nat) : Tool Unit := do
  if descriptor != 0 then
    let _ ← ask (.close descriptor)

def readFile (path : String) : Tool (Except IoError (List Char)) := do
  match ← openInput path with
  | .error cause => return .error cause
  | .ok descriptor =>
      let content ← readAll descriptor
      closeInput descriptor
      return content

structure Lines where
  descriptor : Nat
  rest : List Char := []
  ended : Bool := false

structure Line where
  text : List Char
  ended : Bool := true

def Line.whole (line : Line) : List Char := if line.ended then line.text ++ ['\n'] else line.text

def linesBlock : Nat := 4096

def joined : List (List Char) → List Char
  | [text] => text
  | pieces => pieces.reverse.flatten

-- The next line up to a given end, if there is one. A file that cannot be read has none. The
-- pieces of a line that is longer than a block are held with the last one first.
def nextLineTo (finish : Char) (lines : Lines) : Tool (Option Line × Lines) :=
  rounds (fun (_, lines) => (none, lines)) (fun ((pieces : List (List Char)), (lines : Lines)) => do
    let piece := lines.rest.takeWhile (· != finish)
    let pieces := if piece.isEmpty then pieces else piece :: pieces
    match lines.rest.drop piece.length with
    | _ :: rest => return .finished (some { text := joined pieces }, { lines with rest })
    | [] =>
        let lines := { lines with rest := [] }
        if lines.ended then
          if pieces.isEmpty then return .finished (none, lines)
          else return .finished (some { text := joined pieces, ended := false }, lines)
        else
          match ← readBlock lines.descriptor linesBlock with
          | .ok block =>
              return .again (pieces, { lines with rest := block, ended := block.isEmpty })
          | .error _ => return .again (pieces, { lines with ended := true })) endless ([], lines)

def foldLines {σ : Type} (descriptor : Nat) (finish : Char) (state : σ)
    (step : σ → Line → Tool σ) : Tool σ :=
  rounds (·.2) (fun (lines, state) => do
    match ← nextLineTo finish lines with
    | (some line, lines) => return .again (lines, ← step state line)
    | (none, _) => return .finished state) endless ({ descriptor : Lines }, state)

def splitLines : Nat → Char → List Char → List Line
  | 0, _, _ => []
  | _, _, [] => []
  | fuel + 1, finish, text =>
      let start := text.takeWhile (· != finish)
      match text.drop start.length with
      | _ :: rest => { text := start } :: splitLines fuel finish rest
      | [] => [{ text := start, ended := false }]

def linesOf (text : List Char) : List Line := splitLines (text.length + 1) '\n' text

def isPlainInName (c : Char) : Bool := 32 ≤ c.toNat && c.toNat < 127

def needsQuotes (name : List Char) : Bool :=
  name.isEmpty || name.any (fun c => " !\"$&'()*;<=>?[\\^`|".toList.contains c ||
    !isPlainInName c) ||
    name.head? == some '#' || name.head? == some '~' || name == ['{'] || name == ['}']

def octalCode (c : Char) : List Char :=
  let code := c.toNat
  ['\\', Char.ofNat (48 + code / 64), Char.ofNat (48 + code / 8 % 8), Char.ofNat (48 + code % 8)]

def controlCode (c : Char) : List Char :=
  match c with
  | '\n' => ['\\', 'n']
  | '\t' => ['\\', 't']
  | '\r' => ['\\', 'r']
  | c => octalCode c

def quoteInside : Bool → List Char → List Char
  | pending, [] => if pending then [] else []
  | pending, c :: rest =>
      if isPlainInName c then
        let start := if pending then ['\'', '\''] else []
        let piece := if c = '\'' then ['\'', '\\', '\'', '\''] else [c]
        start ++ piece ++ quoteInside false rest
      else
        let start := if pending then [] else ['\'', '$', '\'']
        start ++ controlCode c ++ quoteInside true rest

def quote (name : String) : String :=
  let text := name.toList
  if text.contains '\'' && text.all fun c => isPlainInName c && !"\"$\\`!".toList.contains c then
    "\"" ++ name ++ "\""
  else "'" ++ String.ofList (quoteInside false text) ++ "'"

-- A name that is quoted only if it has to be.
def shown (name : String) : String := if needsQuotes name.toList then quote name else name

def fileFault (path : String) (cause : IoError) : Tool Unit :=
  fault (shown path ++ ": " ++ cause.description)

def forFiles (paths : List String) (action : String → List Char → Tool Unit) : Tool Unit :=
  paths.forM fun path => do
    match ← readFile path with
    | .ok text => action path text
    | .error cause => fileFault path cause

def orInput (operands : List String) : List String :=
  if operands.isEmpty then ["-"] else operands

def done : Tool Nat := return (← get).status

end Tool
end Acceptance.Tools
