import Acceptance.Awk.Reader
import Acceptance.Tools.Columns
import Acceptance.Tools.Running
import Std.Data.TreeMap

namespace Acceptance.Awk

open Tools (Tool Desk)
open Tools.Tool (Lines Line ask)

-- The state of a program on records: its variables, the record with its fields, and the files and
-- commands that it reads and writes.

inductive Value where
  | missing
  | number (value : Float)
  | text (text : String)
  | input (text : String) (value : Float)

namespace Value

def ofInput (text : String) : Value :=
  match Number.exactly? text.toList with
  | some value => .input text value
  | none => .text text

def ofNat (value : Nat) : Value := .number (Number.ofNat value)

def ofBool (value : Bool) : Value := .number (Number.ofBool value)

def toNumber : Value → Float
  | .missing => 0
  | .number value | .input _ value => value
  | .text letters => Number.ofText letters.toList

def toText (format : String) : Value → String
  | .missing => ""
  | .number value => Number.toText format value
  | .text letters | .input letters _ => letters

def isTrue : Value → Bool
  | .missing => false
  | .number value | .input _ value => value != 0
  | .text letters => !letters.isEmpty

end Value

structure Table where
  elements : Std.TreeMap String (Nat × Value) := {}
  fresh : Nat := 0

namespace Table

def get? (table : Table) (key : String) : Option Value := (table.elements.get? key).map (·.2)

-- An element keeps its number as long as it is there.
def put (table : Table) (key : String) (value : Value) : Table :=
  match table.elements.get? key with
  | some (number, _) => { table with elements := table.elements.insert key (number, value) }
  | none =>
      { elements := table.elements.insert key (table.fresh, value), fresh := table.fresh + 1 }

def erase (table : Table) (key : String) : Table :=
  { table with elements := table.elements.erase key }

def ofList (elements : List (String × Value)) : Table :=
  elements.foldl (fun table (key, value) => table.put key value) {}

def size (table : Table) : Nat := table.elements.size

def code (key : String) : UInt32 :=
  key.toList.foldl (fun code c => (code ^^^ c.toNat.toUInt32) * 16777619) 2166136261

def places : Nat → Nat → Nat → Nat
  | 0, places, _ => places
  | fuel + 1, count, size => if 2 * count < size then places fuel (2 * count) size else count

-- The keys in the order in which a loop goes through them: by their places, and at one place the
-- last one first.
def keys (table : Table) : List String :=
  let count := places 32 64 table.size
  let placed := table.elements.toList.map fun (key, number, _) =>
    ((code key).toNat % count, number, key)
  let sorted := placed.mergeSort fun left right =>
    decide (left.1 < right.1) || (left.1 == right.1 && decide (right.2.1 ≤ left.2.1))
  sorted.map (·.2.2)

end Table

inductive Place where
  | global (index : Nat)
  | inner (index : Nat)

-- What a variable holds. One that has not been used may turn out to be the array that a caller's
-- variable becomes.
inductive Cell where
  | fresh (origin : Option Place)
  | value (value : Value)
  | array (table : Table)
  | alias (place : Place)

structure Sink where
  descriptor : Nat
  child : Option Nat := none
  waiting : List (List Char) := []
  size : Nat := 0

structure Source where
  lines : Lines
  child : Option Nat := none

structure Machine where
  functions : List Function := []
  names : List (String × Nat) := []
  globals : Array Cell := #[]
  inners : Array Cell := #[]
  scope : List (String × Nat) := []
  record : String := ""
  fields : Option (Array Value) := none
  -- Whether the record has to be put together from its fields again.
  stale : Bool := false
  input : Option Lines := none
  argument : Nat := 1
  anyInput : Bool := false
  exhausted : Bool := false
  sources : List (String × Source) := []
  sinks : List (String × Sink) := []
  active : List Nat := []
  seed : Nat := 1
  random : Nat := 1
  status : Nat := 0

inductive Escape where
  | breakLoop
  | continueLoop
  | next
  | nextFile
  | giveBack (value : Value)
  | exit

abbrev Run := ExceptT Escape (StateT Machine Tool)

def liftTool {α : Type} (tool : Tool α) : Run α :=
  ExceptT.lift (StateT.lift tool)

def specialNames : List String :=
  ["NF", "NR", "FNR", "FS", "OFS", "ORS", "RS", "SUBSEP", "RSTART", "RLENGTH", "FILENAME",
    "ENVIRON", "ARGC", "ARGV", "CONVFMT", "OFMT"]

def cellAt (place : Place) : Run Cell := do
  let machine ← get
  return match place with
    | .global index => machine.globals.getD index (.fresh none)
    | .inner index => machine.inners.getD index (.fresh none)

def setCell (place : Place) (cell : Cell) : Run Unit :=
  modify fun machine =>
    match place with
    | .global index => { machine with globals := machine.globals.setIfInBounds index cell }
    | .inner index => { machine with inners := machine.inners.setIfInBounds index cell }

def placeOf (name : String) : Run Place := do
  let machine ← get
  match machine.scope.lookup name with
  | some index => return .inner index
  | none =>
      match machine.names.lookup name with
      | some index => return .global index
      | none =>
          let index := machine.globals.size
          set { machine with
            names := machine.names ++ [(name, index)]
            globals := machine.globals.push (.fresh none) }
          return .global index

def arrayPlace : Nat → Place → Run Place
  | 0, place => return place
  | fuel + 1, place => do
      match ← cellAt place with
      | .alias origin => arrayPlace fuel origin
      | .fresh (some origin) =>
          let origin ← arrayPlace fuel origin
          setCell place (.alias origin)
          return origin
      | .fresh none =>
          setCell place (.array {})
          return place
      | _ => return place

def tableAt (name : String) : Run (Place × Table) := do
  let place ← arrayPlace 1000 (← placeOf name)
  match ← cellAt place with
  | .array table => return (place, table)
  | _ => return (place, {})

def cellValue (place : Place) : Run Value := do
  match ← cellAt place with
  | .value value => return value
  | _ => return .missing

def setting (name : String) : Run String := do
  match (← get).names.lookup name with
  | some index => return (← cellValue (.global index)).toText "%.6g"
  | none => return ""

def setGlobal (name : String) (value : Value) : Run Unit := do
  match (← get).names.lookup name with
  | some index => setCell (.global index) (.value value)
  | none => return ()

def globalNumber (name : String) : Run Nat := do
  match (← get).names.lookup name with
  | some index => return (Number.whole (← cellValue (.global index)).toNumber).toNat
  | none => return 0

def textOf (value : Value) : Run String := do
  match value with
  | .number number => return Number.toText (← setting "CONVFMT") number
  | value => return value.toText ""

def complain (message : String) : Tool Unit := do
  Tools.Tool.tell ((← get).name ++ ": " ++ message ++ "\n")

def stop {α : Type} (message : String) : Run α := liftTool do
  complain message
  Tools.Tool.quit 2

def mistake {α : Type} (message : String) : Run α := do
  let file ← setting "FILENAME"
  let fileCount ← globalNumber "FNR"
  let count ← globalNumber "NR"
  stop ("run time error: " ++ message ++ "\n\tFILENAME=\"" ++ file ++
    s!"\" FNR={fileCount} NR={count}")

def compiled (text : String) : Run Regex := do
  match compileRegex text.toList with
  | .ok regex => return regex
  | .error message => mistake message

def splitBy (regex : Regex) (subject : Subject) : Nat → Nat → Nat → List String
  | 0, _, _ => []
  | fuel + 1, start, from_ =>
      match regex.search subject from_ with
      | some found =>
          if found.start = found.finish then
            if found.start < subject.size then splitBy regex subject fuel start (from_ + 1)
            else [String.ofList (subject.slice start subject.size)]
          else
            String.ofList (subject.slice start found.start) ::
              splitBy regex subject fuel found.finish found.finish
      | none => [String.ofList (subject.slice start subject.size)]

def words : Nat → List Char → List String
  | 0, _ => []
  | fuel + 1, text =>
      let text := text.dropWhile Number.isBlank
      if text.isEmpty then []
      else
        let word := text.takeWhile fun c => !Number.isBlank c
        String.ofList word :: words fuel (text.drop word.length)

def splitAt (c : Char) (text : List Char) : List String :=
  (Tools.splitAtChar c text).map String.ofList

def splitText (separator : String) (text : String) : Run (List String) := do
  let letters := text.toList
  if letters.isEmpty then return []
  match separator.toList with
  | [' '] => return words (letters.length + 1) letters
  | [] => return letters.map fun c => c.toString
  | [c] => return splitAt c letters
  | _ =>
      let regex ← compiled separator
      return splitBy regex (Subject.ofList letters) (letters.length + 2) 0 0

def fieldsNow : Run (Array Value) := do
  let machine ← get
  match machine.fields with
  | some fields => return fields
  | none =>
      let parts ← splitText (← setting "FS") machine.record
      let fields := (parts.map Value.ofInput).toArray
      modify fun machine => { machine with fields := some fields }
      setGlobal "NF" (.ofNat fields.size)
      return fields

def recordNow : Run String := do
  let machine ← get
  if machine.stale then
    let fields ← fieldsNow
    let texts ← fields.toList.mapM textOf
    let record := (← setting "OFS").intercalate texts
    modify fun machine => { machine with record, stale := false }
    return record
  else return machine.record

def setRecord (record : String) : Run Unit :=
  modify fun machine => { machine with record, fields := none, stale := false }

def fieldValue (index : Nat) : Run Value := do
  if index = 0 then return Value.ofInput (← recordNow)
  let fields ← fieldsNow
  match fields[index - 1]? with
  | some (.text text) => return if text.isEmpty then .input "" 0 else .text text
  | some value => return value
  | none => return .missing

def setField (index : Nat) (value : Value) : Run Unit := do
  if index = 0 then setRecord (← textOf value)
  else
    let fields ← fieldsNow
    let fields := fields ++ (List.replicate (index - fields.size) (Value.text "")).toArray
    let fields := fields.setIfInBounds (index - 1) value
    modify fun machine => { machine with fields := some fields, stale := true }
    setGlobal "NF" (.ofNat fields.size)

def setFieldCount (count : Nat) : Run Unit := do
  let fields ← fieldsNow
  let fields := (fields.toList.take count ++
    List.replicate (count - fields.size) (Value.text "")).toArray
  modify fun machine => { machine with fields := some fields, stale := true }

def variableValue (name : String) : Run Value := do
  if name = "NF" && ((← get).scope.lookup name).isNone then
    let _ ← fieldsNow
  cellValue (← placeOf name)

def setVariable (name : String) (value : Value) : Run Unit := do
  let isGlobal := ((← get).scope.lookup name).isNone
  if isGlobal && (name = "FS" || name = "NF") then
    let _ ← fieldsNow
  setCell (← placeOf name) (.value value)
  if isGlobal && name = "NF" then setFieldCount (Number.whole value.toNumber).toNat

-- The longest start of a text that holds no more than line ends.
def dropLines (text : List Char) : List Char := text.dropWhile (· == '\n')

def wholeOf (lines : Lines) : Run Lines := do
  if lines.ended then return lines
  match ← liftTool (Tools.Tool.readAll lines.descriptor) with
  | .ok text => return { lines with rest := lines.rest ++ text, ended := true }
  | .error cause => stop ("read error (" ++ cause.description ++ ")")

def paragraph (text : List Char) : Option (List Char × List Char) :=
  let text := dropLines text
  if text.isEmpty then none
  else
    let rec go : List Char → List Char → List Char × List Char
      | read, '\n' :: '\n' :: rest => (read.reverse, dropLines rest)
      | read, ['\n'] => (read.reverse, [])
      | read, c :: rest => go (c :: read) rest
      | read, [] => (read.reverse, [])
    some (go [] text)

def nextRecord (lines : Lines) : Run (Option String × Lines) := do
  let separator ← setting "RS"
  match separator.toList with
  | [c] =>
      -- A file that cannot be read is an error, unlike one that ends.
      let lines ← if lines.rest.isEmpty && !lines.ended then do
          match ← liftTool (Tools.Tool.readBlock lines.descriptor Tools.Tool.linesBlock) with
          | .ok block => pure { lines with rest := block, ended := block.isEmpty }
          | .error cause => stop ("read error (" ++ cause.description ++ ")")
        else pure lines
      let (line, lines) ← liftTool (Tools.Tool.nextLineTo c lines)
      return (line.map fun line => String.ofList line.text, lines)
  | [] =>
      let lines ← wholeOf lines
      match paragraph lines.rest with
      | some (text, rest) => return (some (String.ofList text), { lines with rest })
      | none => return (none, { lines with rest := [] })
  | _ =>
      let lines ← wholeOf lines
      if lines.rest.isEmpty then return (none, lines)
      let regex ← compiled separator
      let subject := Subject.ofList lines.rest
      match regex.search subject 0 with
      | some found =>
          if found.start < found.finish then
            return (some (String.ofList (subject.slice 0 found.start)),
              { lines with rest := lines.rest.drop found.finish })
          else return (some (String.ofList lines.rest), { lines with rest := [] })
      | none => return (some (String.ofList lines.rest), { lines with rest := [] })

def assignment? (word : String) : Option (String × String) :=
  let text := word.toList
  let name := text.takeWhile fun c => c.isAlphanum || c == '_'
  match text.drop name.length with
  | '=' :: value =>
      if name.head?.any isNameStart then some (String.ofList name, String.ofList value) else none
  | _ => none

def assignArgument (name value : String) : Run Unit :=
  let text := String.ofList (constantText (value.length + 1) value.toList)
  setVariable name (Value.ofInput text)

def openInput : Run Bool :=
  Kernel.rounds (fun _ => false) (fun _ => do
    let machine ← get
    if machine.exhausted then return .finished false
    let count ← globalNumber "ARGC"
    if count ≤ machine.argument then
      modify fun machine => { machine with exhausted := true }
      if machine.anyInput then return .finished false
      modify fun machine => { machine with input := some { descriptor := 0 }, anyInput := true }
      return .finished true
    modify fun machine => { machine with argument := machine.argument + 1 }
    let (_, table) ← tableAt "ARGV"
    let word := ((table.get? (toString machine.argument)).getD .missing).toText "%.6g"
    if word.isEmpty then return .again ()
    match assignment? word with
    | some (name, value) =>
        assignArgument name value
        return .again ()
    | none =>
        match ← liftTool (Tools.Tool.openInput word) with
        | .ok descriptor =>
            modify fun machine => { machine with input := some { descriptor }, anyInput := true }
            setGlobal "FILENAME" (.text (if word = "-" then "" else word))
            setGlobal "FNR" (.number 0)
            return .finished true
        | .error cause =>
            stop ("cannot open \"" ++ word ++ "\" (" ++ cause.description ++ ")"))
    Kernel.endless ()

def closeInput : Run Unit := do
  match (← get).input with
  | some lines =>
      liftTool (Tools.Tool.closeInput lines.descriptor)
      modify fun machine => { machine with input := none }
  | none => return ()

def mainRecord : Run (Option String) :=
  Kernel.rounds (fun _ => none) (fun _ => do
    match (← get).input with
    | none => if ← openInput then return .again () else return .finished none
    | some lines =>
        let (record, lines) ← nextRecord lines
        modify fun machine => { machine with input := some lines }
        match record with
        | some record =>
            setGlobal "NR" (.ofNat ((← globalNumber "NR") + 1))
            setGlobal "FNR" (.ofNat ((← globalNumber "FNR") + 1))
            return .finished (some record)
        | none =>
            closeInput
            return .again ()) Kernel.endless ()

def flushSink (sink : Sink) : Run Sink := do
  if !sink.waiting.isEmpty then
    let _ ← liftTool (Tools.Tool.writeTo sink.descriptor sink.waiting.reverse.flatten)
  return { sink with waiting := [], size := 0 }

def flushSinks : Run Unit := do
  let sinks ← (← get).sinks.mapM fun (name, sink) => return (name, ← flushSink sink)
  modify fun machine => { machine with sinks }

def flushAll : Run Unit := do
  liftTool Tools.Tool.flush
  flushSinks

-- The process of a command with one end of a pipe. The other ends stay with the program.
def startCommand (command : String) (writes : Bool) : Run (Nat × Nat) := do
  flushAll
  let (output, input) ← liftTool (ask .pipe)
  let (mine, its) := if writes then (input, output) else (output, input)
  let others := (← get).sinks.map (·.2.descriptor) ++
    (← get).sources.map (·.2.lines.descriptor)
  let desk ← liftTool get
  let body : Tool Nat := do
    let _ ← ask (.redirect its (if writes then 0 else 1))
    (its :: mine :: others).forM fun descriptor => do
      if 2 < descriptor then
        let _ ← ask (.close descriptor)
    let _ ← Tools.becomeOne "/bin/sh" ["/bin/sh", "-c", command] desk.settings
    return 127
  let child ← liftTool (Tools.Tool.lift (Kernel.Program.fork
    (Tools.Tool.process { desk with pending := [], size := 0 } body)))
  let _ ← liftTool (ask (.close its))
  return (child, mine)

def sinkFor (key name : String) (append command : Bool) : Run Sink := do
  match (← get).sinks.lookup key with
  | some sink => return sink
  | none =>
      if command then
        let (child, descriptor) ← startCommand name true
        return { descriptor, child := some child }
      else if name = "/dev/stderr" || name = "/dev/fd/2" then return { descriptor := 2 }
      else
        let opening := if append then Kernel.Opening.forAppending else Kernel.Opening.forWriting
        match ← liftTool (ask (.open name opening)) with
        | .ok descriptor => return { descriptor }
        | .error cause =>
            mistake ("cannot open \"" ++ name ++ "\" for output (" ++ cause.description ++ ")")

def writeSink (name : String) (append command : Bool) (text : List Char) : Run Unit := do
  let key := (if command then "|" else ">") ++ name
  let sink ← sinkFor key name append command
  let sink := { sink with waiting := text :: sink.waiting, size := sink.size + text.length }
  let sink ← if sink.descriptor = 2 || Tools.Tool.bufferSize ≤ sink.size then flushSink sink
    else pure sink
  modify fun machine => { machine with
    sinks := (key, sink) :: machine.sinks.filter (·.1 != key) }

def awaited (child : Nat) : Run Nat := do
  match ← liftTool (Tools.awaitChild child none) with
  | some (.exited code) => return code
  | some (.signaled signal _) => return 256 + signal
  | _ => return 0

def closeSink (sink : Sink) : Run Nat := do
  let sink ← flushSink sink
  if 2 < sink.descriptor then
    let _ ← liftTool (ask (.close sink.descriptor))
  match sink.child with
  | some child => awaited child
  | none => return 0

def closeSource (source : Source) : Run Nat := do
  if 2 < source.lines.descriptor then
    let _ ← liftTool (ask (.close source.lines.descriptor))
  match source.child with
  | some child => awaited child
  | none => return 0

def closeNamed (name : String) : Run Int := do
  let keys := ["|" ++ name, ">" ++ name, "<" ++ name]
  let machine ← get
  let sinks := machine.sinks.filter fun (key, _) => keys.contains key
  let sources := machine.sources.filter fun (key, _) => keys.contains key
  set { machine with
    sinks := machine.sinks.filter fun (key, _) => !keys.contains key
    sources := machine.sources.filter fun (key, _) => !keys.contains key }
  let written ← sinks.mapM fun (_, sink) => closeSink sink
  let read ← sources.mapM fun (_, source) => closeSource source
  match written ++ read with
  | [] => return -1
  | status :: _ => return status

def closeAll : Run Unit := do
  let sinks := (← get).sinks
  modify fun machine => { machine with sinks := [] }
  sinks.reverse.forM fun (_, sink) => do
    let _ ← closeSink sink

end Acceptance.Awk
