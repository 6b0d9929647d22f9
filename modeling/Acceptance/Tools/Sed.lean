import Acceptance.Editor.Reader
import Acceptance.Tools.Columns
import Acceptance.Tools.Files

namespace Acceptance.Tools

open Tool
open Kernel (Turn rounds endless)
open Editor (Script Pattern Address Finish Selector Substitution Condition Casing Piece)

namespace Sed

-- The line editor: it reads lines into a space, applies the steps of a script to the space and
-- writes it.

structure Space where
  text : List Char := []
  ended : Bool := true

inductive Appendix where
  | text (text : List Char)
  | file (path : String)

inductive Range where
  | outside
  | upTo (line : Nat)
  | untilAddress
  deriving DecidableEq

structure Output where
  descriptor : Nat
  unended : Bool := false

structure InPlace where
  path : String
  scratch : String
  mode : Nat

structure Style where
  script : Script
  quiet : Bool := false
  separate : Bool := false
  inPlace : Option String := none
  unbuffered : Bool := false
  finish : Char := '\n'
  width : Nat := 70

structure Editing where
  paths : List String
  input : Option Lines := none
  inputName : String := "-"
  spaceName : String := "-"
  edited : Option InPlace := none
  space : Space := {}
  hold : Space := {}
  lineNumber : Nat := 0
  ranges : List (Nat × Range) := []
  replaced : Bool := false
  appendices : List Appendix := []
  lastPattern : Option Pattern := none
  outputs : List (String × Output) := []
  readers : List (String × Option Lines) := []
  place : Option Nat := none

inductive Flow where
  | onward
  | to (place : Nat)
  | fresh
  | again
  | quit (status : Nat)

abbrev Edit := ReaderT Style (StateT Editing Tool)

def liftTool {α : Type} (tool : Tool α) : Edit α := fun _ state => do return (← tool, state)

-- Complaints do not wait for the output.
def complain (message : String) : Tool Unit := do
  tell ((← get).name ++ ": " ++ message ++ "\n")

def stop {α : Type} (message : String) (status : Nat) : Tool α := do
  complain message
  quit status

-- The name under which the output of all lines is kept. It may differ from the standard output.
def mainOutput : String := ""

def outputAt (path : String) : Edit Output := do
  return ((← get).outputs.lookup path).getD { descriptor := 1 }

def setOutput (path : String) (output : Output) : Edit Unit :=
  modify fun state => { state with
    outputs := (path, output) :: state.outputs.filter (·.1 != path) }

def writeRaw (output : Output) (text : List Char) : Edit Unit := do
  if output.descriptor = 1 then
    liftTool (put text)
    if (← read).unbuffered then liftTool flush
  else
    match ← liftTool (writeTo output.descriptor text) with
    | .ok _ => return ()
    | .error cause => liftTool (stop ("couldn't flush file: " ++ cause.description) 4)

def endLine (path : String) : Edit Output := do
  let output ← outputAt path
  if output.unended then
    writeRaw output [(← read).finish]
    setOutput path { output with unended := false }
  return { output with unended := false }

def writeText (path : String) (text : List Char) : Edit Unit := do
  let output ← endLine path
  writeRaw output text

def writeSpace (path : String) (space : Space) : Edit Unit := do
  let output ← endLine path
  let finish := (← read).finish
  writeRaw output (if space.ended then space.text ++ [finish] else space.text)
  setOutput path { output with unended := !space.ended }

def printSpace : Edit Unit := do writeSpace mainOutput (← get).space

def printText (text : List Char) : Edit Unit := do writeText mainOutput text

def flushAppendices : Edit Unit := do
  let appendices := (← get).appendices
  modify fun state => { state with appendices := [] }
  appendices.reverse.forM fun appendix => do
    match appendix with
    | .text text => printText text
    | .file path =>
        match ← liftTool (readFile (if path = "/dev/stdin" then "-" else path)) with
        | .ok text => if text.isEmpty then return () else printText text
        | .error _ => return ()

def finishEdited : Edit Unit := do
  match (← get).edited, (← read).inPlace with
  | some edited, some ending =>
      let output ← outputAt mainOutput
      let _ ← liftTool (ask (.close output.descriptor))
      let _ ← liftTool (ask (.change (.setMode edited.scratch edited.mode)))
      if !ending.isEmpty then
        let copy := if ending.contains '*' then
            under (parentOf edited.path) (ending.replace "*" (lastName edited.path))
          else edited.path ++ ending
        let _ ← liftTool (ask (.change (.rename edited.path copy)))
      let _ ← liftTool (ask (.change (.rename edited.scratch edited.path)))
      setOutput mainOutput { descriptor := 1 }
      modify fun state => { state with edited := none }
  | _, _ => return ()

def startEdited (path : String) : Edit Bool := do
  match ← liftTool (statusAt path true) with
  | .error _ => return true
  | .ok status =>
      if status.kind != .file then
        liftTool (complain ("couldn't edit " ++ path ++ ": not a regular file"))
        liftTool (setStatus 4)
        return false
      let scratch := under (parentOf path) "sedAAAAAA"
      let opening := { Kernel.Opening.forWriting with exclusive := true }
      match ← liftTool (ask (.open scratch opening)) with
      | .ok descriptor =>
          setOutput mainOutput { descriptor }
          modify fun state => { state with
            edited := some { path, scratch, mode := status.mode } }
          return true
      | .error cause =>
          liftTool (stop ("couldn't open temporary file " ++ scratch ++ ": " ++
            cause.description) 4)

def closeCurrent : Edit Unit := do
  match (← get).input with
  | some lines => liftTool (closeInput lines.descriptor)
  | none => return ()
  modify fun state => { state with input := none }
  finishEdited

def openNext : Edit Bool :=
  rounds (fun _ => false) (fun _ => do
    match (← get).paths with
    | [] => return .finished false
    | path :: paths =>
        modify fun state => { state with paths }
        match ← liftTool (openInput path) with
        | .error cause =>
            liftTool (complain ("can't read " ++ path ++ ": " ++ cause.description))
            liftTool (setStatus 2)
            return .again ()
        | .ok descriptor =>
            if (← read).separate then
              modify fun state => { state with
                lineNumber := 0, hold := {}, ranges := [], readers := [] }
              let _ ← endLine mainOutput
            if (← read).inPlace.isSome && path != "-" then
              if !(← startEdited path) then
                liftTool (closeInput descriptor)
                return .again ()
            modify fun state => { state with
              input := some { descriptor }, inputName := path }
            return .finished true) endless ()

def hasMore : Edit Bool := do
  match (← get).input with
  | none => return false
  | some lines =>
      if !lines.rest.isEmpty then return true
      if lines.ended then return false
      match ← liftTool (readBlock lines.descriptor linesBlock) with
      | .ok block =>
          modify fun state => { state with
            input := some { lines with rest := block, ended := block.isEmpty } }
          return !block.isEmpty
      | .error cause =>
          let name := (← get).inputName
          liftTool (stop ("read error on " ++ (if name = "-" then "stdin" else name) ++ ": " ++
            cause.description) 4)

-- Whether there are no further lines. Files that are not separate are looked at as one.
def atEnd : Edit Bool :=
  rounds (fun _ => true) (fun _ => do
    if ← hasMore then return .finished false
    if (← read).separate then return .finished true
    closeCurrent
    if ← openNext then return .again () else return .finished true) endless ()

def isExhausted : Edit Bool :=
  rounds (fun _ => true) (fun _ => do
    if ← hasMore then return .finished false
    closeCurrent
    if ← openNext then return .again () else return .finished true) endless ()

def readSpace (start : List Char) : Edit Bool := do
  flushAppendices
  modify fun state => { state with replaced := false }
  if ← isExhausted then return false
  match (← get).input with
  | none => return false
  | some lines =>
      let (line, lines) ← liftTool (nextLineTo (← read).finish lines)
      match line with
      | none => return false
      | some line =>
          modify fun state => { state with
            input := some lines, lineNumber := state.lineNumber + 1
            spaceName := state.inputName
            space := { text := start ++ line.text, ended := line.ended } }
          return true

def known (pattern : Option Pattern) : Edit Pattern := do
  match pattern with
  | some pattern =>
      modify fun state => { state with lastPattern := some pattern }
      return pattern
  | none =>
      match (← get).lastPattern with
      | some pattern => return pattern
      | none => liftTool (stop "-e expression #1, char 0: no previous regular expression" 1)

def subjectOf (pattern : Pattern) (text : List Char) : Subject :=
  { text := text.toArray, caseless := pattern.caseless, multiline := pattern.multiline }

def addressFits : Address → Edit Bool
  | .line number => return (← get).lineNumber == number
  | .every first step => do
      let line := (← get).lineNumber
      return first ≤ line && (line - first) % step == 0
  | .last => atEnd
  | .pattern pattern => do
      let pattern ← known pattern
      return pattern.regex.isIn (subjectOf pattern (← get).space.text)

def setRange (index : Nat) (range : Range) : Edit Unit :=
  modify fun state => { state with
    ranges := (index, range) :: state.ranges.filter (·.1 != index) }

def rangeFrom (line : Nat) : Finish → Edit Range
  | .after count => return if count = 0 then .outside else .upTo (line + count)
  | .multiple factor =>
      return if factor = 0 || line % factor = 0 then .outside
        else .upTo (line / factor * factor + factor)
  | .address (.line number) => return if number ≤ line then .outside else .upTo number
  | .address .last => return if ← atEnd then .outside else .untilAddress
  | .address _ => return .untilAddress

def rangeAtStart : Address → Range
  | .line 0 => .untilAddress
  | _ => .outside

def rangeFits (index : Nat) (start : Address) (finish : Finish) : Edit Bool := do
  let state ← get
  let line := state.lineNumber
  match (state.ranges.lookup index).getD (rangeAtStart start) with
  | .outside =>
      if !(← addressFits start) then return false
      setRange index (← rangeFrom line finish)
      return true
  | .upTo last =>
      if last ≤ line then setRange index .outside
      return line ≤ last
  | .untilAddress =>
      match finish with
      | .address address => if ← addressFits address then setRange index .outside
      | _ => setRange index .outside
      return true

def selects (index : Nat) (selector : Selector) : Edit Bool := do
  let fits ← match selector.start, selector.finish with
    | none, _ => pure true
    | some start, none => addressFits start
    | some start, some finish => rangeFits index start finish
  return fits != selector.negated

-- The letters of a replacement so far, the last one first, and how the next ones are written.
structure Replaced where
  text : List Char := []
  casing : Casing := .asGiven
  once : Option Casing := none

def Replaced.add (replaced : Replaced) (c : Char) : Replaced :=
  let c := match replaced.once.getD replaced.casing with
    | .upper | .nextUpper => c.toUpper
    | .lower | .nextLower => c.toLower
    | .asGiven => c
  { replaced with text := c :: replaced.text, once := none }

def Replaced.addPiece (subject : Subject) (found : Match) (replaced : Replaced) :
    Piece → Replaced
  | .char c => replaced.add c
  | .group number =>
      match found.group? number with
      | some span => (subject.slice span.start span.finish).foldl Replaced.add replaced
      | none => replaced
  | .casing .nextUpper => { replaced with once := some .nextUpper }
  | .casing .nextLower => { replaced with once := some .nextLower }
  | .casing casing => { replaced with casing, once := none }

def replacementOf (pieces : List Piece) (subject : Subject) (found : Match) :
    List Char :=
  (pieces.foldl (Replaced.addPiece subject found) {}).text.reverse

-- The text after a substitution, if there was one. The result so far is kept with the last
-- character first. An empty match directly behind another one does not count.
def substituteFrom (substitution : Substitution) (regex : Regex) (subject : Subject) :
    Nat → Nat → Nat → Option Nat → Bool → List Char → Option (List Char)
  | 0, _, _, _, _, _ => none
  | fuel + 1, start, count, before, changed, result =>
      let finishWith (result : List Char) (start : Nat) : Option (List Char) :=
        if changed then some (result.reverse ++ subject.slice start subject.size) else none
      match (if start ≤ subject.size then regex.search subject start else none) with
      | none => finishWith result start
      | some found =>
                    let result := (subject.slice start found.start).reverse ++ result
          let isEmpty := found.start = found.finish
          if isEmpty && before = some found.start then
            if found.start < subject.size then
              let c := subject.slice found.start (found.start + 1)
              substituteFrom substitution regex subject fuel (found.start + 1) count none changed
                (c.reverse ++ result)
            else finishWith result found.start
          else
            let count := count + 1
            let replaces := substitution.number ≤ count
            let piece := if replaces then
                replacementOf substitution.replacement subject found
              else subject.slice found.start found.finish
            let result := piece.reverse ++ result
            if replaces && !substitution.all then
              some (result.reverse ++ subject.slice found.finish subject.size)
            else if isEmpty then
              if found.start < subject.size then
                let c := subject.slice found.start (found.start + 1)
                substituteFrom substitution regex subject fuel (found.start + 1) count none
                  (changed || replaces) (c.reverse ++ result)
              else if changed || replaces then some result.reverse else none
            else
              substituteFrom substitution regex subject fuel found.finish count
                (some found.finish) (changed || replaces) result

def substitute (substitution : Substitution) : Edit Flow := do
  let pattern ← known substitution.pattern
  let subject := subjectOf pattern (← get).space.text
  match substituteFrom substitution pattern.regex subject (2 * subject.size + 3) 0 0 none false
      [] with
  | none => return .onward
  | some text =>
      modify fun state => { state with space := { state.space with text }, replaced := true }
      if substitution.prints then printSpace
      if let some path := substitution.file then writeSpace path (← get).space
      return .onward

def listed (c : Char) : List Char :=
  match c with
  | '\\' => ['\\', '\\']
  | '\n' => ['\\', 'n']
  | '\r' => ['\\', 'r']
  | '\t' => ['\\', 't']
  | c =>
      match c.toNat with
      | 7 => ['\\', 'a']
      | 8 => ['\\', 'b']
      | 11 => ['\\', 'v']
      | 12 => ['\\', 'f']
      | _ => if isPlainInName c then [c] else octalCode c

def listing (width : Nat) (text : List Char) : List Char :=
  let (shown, _) := text.foldl (fun (shown, column) c =>
    let piece := listed c
    if width != 0 && width - 1 < column + piece.length then
      (piece.reverse ++ '\n' :: '\\' :: shown, piece.length)
    else (piece.reverse ++ shown, column + piece.length)) (([] : List Char), 0)
  shown.reverse ++ ['$', '\n']

def firstLine : Edit (List Char) := do
  let finish := (← read).finish
  return (← get).space.text.takeWhile (· != finish)

def readBeside (path : String) : Edit Unit := do
  let lines? ← match (← get).readers.lookup path with
    | some lines => pure lines
    | none =>
        let opened ← if path = "/dev/stdin" then pure (.ok 0)
          else liftTool (ask (.open path .forReading))
        match opened with
        | .ok descriptor => pure (some { descriptor : Lines })
        | .error _ => pure none
  match lines? with
  | none => modify fun state => { state with readers := (path, none) :: state.readers }
  | some lines =>
      let (line, lines) ← liftTool (nextLineTo (← read).finish lines)
      modify fun state => { state with
        readers := (path, some lines) :: state.readers.filter (·.1 != path)
        appendices := match line with
          | some line => .text line.whole :: state.appendices
          | none => state.appendices }

def setSpace (text : List Char) : Edit Unit :=
  modify fun state => { state with space := { state.space with text } }

def enqueue (appendix : Appendix) : Edit Flow := do
  modify fun state => { state with appendices := appendix :: state.appendices }
  return .onward

def advance (append : Bool) : Edit Flow := do
  let style ← read
  if ← isExhausted then
    if !(style.quiet || style.script.quiet) then printSpace
    flushAppendices
    return .quit 0
  else
    if !append && !(style.quiet || style.script.quiet) then printSpace
    let text := (← get).space.text
    let start := if append then text ++ [style.finish] else []
    let _ ← readSpace start
    return .onward

def jumpTo (label : String) : Edit Flow := do
  let script := (← read).script
  return .to ((script.target? label).getD script.steps.size)

def perform (index : Nat) : Editor.Action → Edit Flow
  | .enter _ | .nothing | .label _ => return .onward
  | .jump condition label => do
      let replaced := (← get).replaced
      match condition with
      | .always => jumpTo label
      | .replaced =>
          modify fun state => { state with replaced := false }
          if replaced then jumpTo label else return .onward
      | .unreplaced =>
          modify fun state => { state with replaced := false }
          if replaced then return .onward else jumpTo label
  | .substitute substitution => substitute substitution
  | .exchangeLetters letters => do
      setSpace ((← get).space.text.map fun c => (letters.lookup c).getD c)
      return .onward
  | .append text => enqueue (.text text)
  | .insert text => do
      printText text
      return .onward
  | .change text => do
      match (← get).ranges.lookup index with
      | none | some .outside => printText text
      | some _ => return .fresh
      return .fresh
  | .readFile path => enqueue (.file path)
  | .readLine path => do
      readBeside path
      return .onward
  | .writeSpace path => do
      writeSpace path (← get).space
      return .onward
  | .writeLine path => do
      let text ← firstLine
      writeSpace path { text }
      return .onward
  | .quit status prints => do
      let style ← read
      if prints then
        if !(style.quiet || style.script.quiet) then printSpace
        flushAppendices
      return .quit status
  | .list width => do
      printText (listing (width.getD (← read).width) (← get).space.text)
      return .onward
  | .delete => return .fresh
  | .deleteLine => do
      let text := (← get).space.text
      if text.contains (← read).finish then
        setSpace (text.drop ((← firstLine).length + 1))
        return .again
      else return .fresh
  | .next => advance false
  | .nextAppended => advance true
  | .print => do
      printSpace
      return .onward
  | .printLine => do
      let text ← firstLine
      writeSpace mainOutput { text }
      return .onward
  | .recall => do
      modify fun state => { state with space := state.hold }
      return .onward
  | .recallAppended => do
      let finish := (← read).finish
      modify fun state => { state with
        space := { state.hold with text := state.space.text ++ finish :: state.hold.text } }
      return .onward
  | .keep => do
      modify fun state => { state with hold := state.space }
      return .onward
  | .keepAppended => do
      let finish := (← read).finish
      modify fun state => { state with
        hold := { state.space with text := state.hold.text ++ finish :: state.space.text } }
      return .onward
  | .exchange => do
      modify fun state => { state with space := state.hold, hold := state.space }
      return .onward
  | .number => do
      let finish := (← read).finish
      printText ((toString (← get).lineNumber).toList ++ [finish])
      return .onward
  | .name => do
      let finish := (← read).finish
      printText ((← get).spaceName.toList ++ [finish])
      return .onward
  | .clear => do
      setSpace []
      return .onward

def advanceOnce : Edit (Turn Unit Nat) := do
  let style ← read
  match (← get).place with
  | none =>
      if ← readSpace [] then
        modify fun state => { state with place := some 0 }
        return .again ()
      else return .finished (← liftTool (do return (← get).status))
  | some place =>
      let go (place : Option Nat) : Edit (Turn Unit Nat) := do
        modify fun state => { state with place }
        return .again ()
      match style.script.steps[place]? with
      | none =>
          if !(style.quiet || style.script.quiet) then printSpace
          go none
      | some step =>
          let selected ← selects place step.selector
          let flow ← match selected, step.action with
            | false, .enter finish => pure (.to finish)
            | false, _ => pure .onward
            | true, action => perform place action
          match flow with
          | .onward => go (some (place + 1))
          | .to target => do
              if target ≤ place then liftTool Tool.toil
              go (some target)
          | .fresh => go none
          | .again =>
              flushAppendices
              liftTool Tool.toil
              go (some 0)
          | .quit status =>
              let earlier ← liftTool (do return (← get).status)
              return .finished (if status = 0 then earlier else status)

def giveBack : Edit Unit := do
  match (← get).input with
  | some lines =>
      if !lines.rest.isEmpty then
        let _ ← liftTool (ask (.seek lines.descriptor .current (-(lines.rest.length : Int))))
  | none => return ()

def editAll : Edit Nat := do
  let status ← rounds (fun _ => 0) (fun _ => advanceOnce) endless ()
  giveBack
  finishEdited
  return status

def openOutputs : List String → Tool (List (String × Output))
  | [] => return [("/dev/stdout", { descriptor := 1 }), ("/dev/stderr", { descriptor := 2 })]
  | path :: paths => do
      let opened ← openOutputs paths
      if (opened.lookup path).isSome then return opened
      match ← ask (.open path .forWriting) with
      | .ok descriptor => return (path, { descriptor }) :: opened
      | .error cause => stop ("couldn't open file " ++ path ++ ": " ++ cause.description) 4

def chunksOf : Nat → List (String × String) → Tool (List Editor.Chunk)
  | _, [] => return []
  | number, (key, value) :: rest => do
      match key with
      | "e" =>
          let chunk : Editor.Chunk := { origin := .expression number, text := value.toList }
          return chunk :: (← chunksOf (number + 1) rest)
      | "f" =>
          match ← readFile value with
          | .ok text =>
              let text := if text.getLast? = some '\n' then text.dropLast else text
              return { origin := .file value, text } :: (← chunksOf number rest)
          | .error cause =>
              stop ("couldn't open file " ++ value ++ ": " ++ cause.description) 4
      | _ => chunksOf number rest

end Sed

def sedUsage : String :=
  "Usage: sed [OPTION]... \x7bscript-only-if-no-other-script\x7d [input-file]...\n\n"

def sedTool (arguments : List String) : Tool Nat := do
  let given ← options
    [.flag 'n' ["quiet", "silent"], .value 'e' ["expression"], .value 'f' ["file"],
      .attached 'i' ["in-place"], .flag 'E' ["regexp-extended"], .flag 'r' [],
      .longFlag "sandbox", .flag 's' ["separate"], .flag 'u' ["unbuffered"],
      .flag 'z' ["null-data", "zero-terminated"], .value 'l' ["line-length"],
      .longFlag "posix", .longFlag "follow-symlinks", .longFlag "debug"]
    arguments
  let hasScript := given.has "e" || given.has "f"
  let pieces := if hasScript then given.options
    else [("e", given.operands.headD "")]
  let paths := if hasScript then given.operands else given.operands.tail
  if !hasScript && given.operands.isEmpty then
    tell sedUsage
    quit 1
  let chunks ← Sed.chunksOf 1 pieces
  match Script.read (given.has "E" || given.has "r") chunks with
  | .error message => Sed.stop message 1
  | .ok script =>
      if let some label := script.missingLabel? then
        Sed.stop ("can't find label for jump to `" ++ label ++ "'") 4
      let outputs ← Sed.openOutputs script.outputs
      let style : Sed.Style :=
        { script, quiet := given.has "n", separate := given.has "s" || given.has "i"
          inPlace := given.value? "i", unbuffered := given.has "u"
          finish := if given.has "z" then Char.ofNat 0 else '\n'
          width := (((given.value? "l").bind (·.toNat?))).getD 70 }
      let (status, _) ← (Sed.editAll.run style).run { paths := orInput paths, outputs }
      return status

end Acceptance.Tools
