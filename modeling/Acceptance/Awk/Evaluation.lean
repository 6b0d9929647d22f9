import Acceptance.Awk.Machine

namespace Acceptance.Awk

open Format (Conversion)

-- What expressions and statements of programs on records do.

structure Evaluator where
  value : Expr → Run Value
  statement : Statement → Run Unit

-- A format that is being laid out: the arguments that remain, the conversions so far, the pieces
-- with the last one first, and what was wrong.
structure Layout where
  items : List Value
  conversions : Nat := 1
  pieces : List (List Char) := []
  fault : Option String := none

namespace Layout

def lacking (layout : Layout) : Layout :=
  { layout with fault := some "not enough arguments passed to " }

def amount (layout : Layout) (text : List Char) : Int × List Char × Layout :=
  match text, layout.items with
  | '*' :: rest, value :: items =>
      (Number.whole value.toNumber, rest, { layout with items })
  | '*' :: rest, [] => (0, rest, layout.lacking)
  | _, _ =>
      let digits := text.takeWhile Char.isDigit
      (Format.natOf digits, text.drop digits.length, layout)

def add (layout : Layout) (piece : List Char) : Layout :=
  { layout with pieces := piece :: layout.pieces }

def converted (conversion : Conversion) (kind : Char) (value : Value) : Run (List Char) := do
  match kind with
  | 's' => return conversion.string (← textOf value).toList
  | 'c' =>
      let c := match value with
        | .text text => text.toList.headD (Char.ofNat 0)
        | value => Format.octet (Number.whole value.toNumber % 256).toNat
      return conversion.pad [c]
  | kind => return Number.formatted conversion kind value.toNumber

def extend : Nat → List Char → Layout → Run Layout
  | 0, _, layout => return layout
  | _, [], layout => return layout
  | fuel + 1, '%' :: '%' :: rest, layout => extend fuel rest (layout.add ['%'])
  | fuel + 1, '%' :: rest, layout => do
      let (conversion, rest) := Conversion.flags {} rest
      let (width, rest, layout) := layout.amount rest
      let conversion := conversion.withWidth width
      let (conversion, rest, layout) := match rest with
        | '.' :: rest =>
            let (precision, rest, layout) := layout.amount rest
            (conversion.withPrecision precision, rest, layout)
        | rest => (conversion, rest, layout)
      match rest.dropWhile (fun c => c == 'l' || c == 'h'), layout.items with
      | kind :: rest, value :: items =>
          if !"diouxXeEfFgGsc".toList.contains kind then
            return { layout with
              fault := some s!"improper conversion(number {layout.conversions}) in " }
          let piece ← converted conversion kind value
          extend fuel rest
            { layout.add piece with items, conversions := layout.conversions + 1 }
      | _, _ => return layout.lacking
  | fuel + 1, text, layout =>
      let plain := text.takeWhile (· != '%')
      extend fuel (text.drop plain.length) (layout.add plain)

def text (layout : Layout) : List Char := layout.pieces.reverse.flatten

end Layout

-- Lays out a format. What was laid out before a mistake goes to `emit` all the same.
def layOut (name : String) (items : List Value) (emit : List Char → Run Unit) : Run Unit := do
  let format ← textOf (items.headD .missing)
  let layout ← Layout.extend (format.length + 1) format.toList { items := items.tail }
  emit layout.text
  if let some fault := layout.fault then mistake (fault ++ name ++ "(\"" ++ format ++ "\")")

def calculate (operator : Arithmetic) (left right : Float) : Float :=
  match operator with
  | .add => left + right
  | .subtract => left - right
  | .multiply => left * right
  | .divide => left / right
  | .modulo => Number.remainder left right
  | .power => Float.pow left right

def asNumber? : Value → Option Float
  | .missing => some 0
  | .number value | .input _ value => some value
  | .text _ => none

def compareBy {α : Type} (less equal : α → α → Bool) (operator : Comparison) (left right : α) :
    Bool :=
  match operator with
  | .less => less left right
  | .lessOrEqual => less left right || equal left right
  | .equal => equal left right
  | .unequal => !equal left right
  | .greater => less right left
  | .greaterOrEqual => less right left || equal left right

def compareValues (operator : Comparison) (left right : Value) : Run Bool := do
  match asNumber? left, asNumber? right with
  | some left, some right =>
      return compareBy (fun (x y : Float) => x < y) (fun x y => x == y) operator left right
  | _, _ =>
      let left ← textOf left
      let right ← textOf right
      return compareBy (fun (x y : String) => x < y) (fun x y => x == y) operator left right

-- The part of a text from a place on. What lies before the text adds to the count.
def substring (text : List Char) (start : Float) (count : Option Float) : List Char :=
  let first := Number.whole start
  let begin_ := (max first 1).toNat
  match count with
  | none => text.drop (begin_ - 1)
  | some count =>
      let size := Number.whole count - min first 0
      (text.drop (begin_ - 1)).take size.toNat

def indexOf (piece : List Char) : Nat → List Char → Nat
  | index, text =>
      if piece.isPrefixOf text then index
      else
        match text with
        | [] => 0
        | _ :: rest => indexOf piece (index + 1) rest

-- A replacement, in which the mark stands for what was matched unless it has a backslash.
def replacementText (found : List Char) : List Char → List Char
  | '\\' :: '\\' :: '&' :: rest => '\\' :: found ++ replacementText found rest
  | '\\' :: '&' :: rest => '&' :: replacementText found rest
  | '&' :: rest => found ++ replacementText found rest
  | c :: rest => c :: replacementText found rest
  | [] => []

-- The text with matches replaced, and their number. The result so far is kept with the last
-- character first. An empty match directly behind another one does not count.
def replaceFrom (regex : Regex) (subject : Subject) (replacement : List Char) (all : Bool) :
    Nat → Nat → Nat → Option Nat → List Char → List Char × Nat
  | 0, _, count, _, result => (result.reverse, count)
  | fuel + 1, start, count, before, result =>
      match (if start ≤ subject.size then regex.search subject start else none) with
      | none => (result.reverse ++ subject.slice start subject.size, count)
      | some found =>
          let result := (subject.slice start found.start).reverse ++ result
          let isEmpty := found.start = found.finish
          let skipped := isEmpty && before = some found.start
          let piece := if skipped then []
            else replacementText (subject.slice found.start found.finish) replacement
          let result := piece.reverse ++ result
          let count := if skipped then count else count + 1
          if !all then (result.reverse ++ subject.slice found.finish subject.size, count)
          else if isEmpty then
            if found.start < subject.size then
              let next := subject.slice found.start (found.start + 1)
              replaceFrom regex subject replacement all fuel (found.start + 1) count none
                (next.reverse ++ result)
            else (result.reverse, count)
          else
            replaceFrom regex subject replacement all fuel found.finish count
              (some found.finish) result

def nextSeed (seed : Nat) : Nat :=
  (seed * 6364136223846793005 + 1442695040888963407) % UInt64.size

def runCommand (command : String) : Run Nat := do
  flushAll
  let desk ← liftTool get
  let body : Tools.Tool Nat := do
    let _ ← Tools.becomeOne "/bin/sh" ["/bin/sh", "-c", command] desk.settings
    return 127
  let child ← liftTool (Tools.Tool.lift (Kernel.Program.fork (Tools.Tool.process desk body)))
  awaited child

namespace Evaluator

variable (evaluator : Evaluator)

def text (value : Expr) : Run String := do textOf (← evaluator.value value)

def number (value : Expr) : Run Float := return (← evaluator.value value).toNumber

def pattern (value : Expr) : Run Regex := do
  match value with
  | .regex regex | .group (.regex regex) => return regex
  | value => compiled (← evaluator.text value)

def key (subscripts : List Expr) : Run String := do
  let texts ← subscripts.mapM evaluator.text
  return (← setting "SUBSEP").intercalate texts

def fieldIndex (index : Expr) : Run Nat := do
  let number := Number.whole (← evaluator.number index)
  if number < 0 then mistake s!"negative field index ${number}"
  return number.toNat

inductive Reference where
  | variable (name : String)
  | element (array key : String)
  | field (index : Nat)

def reference (target : Expr) : Run Reference := do
  match target with
  | .element array subscripts => return .element array (← evaluator.key subscripts)
  | .field index => return .field (← evaluator.fieldIndex index)
  | .variable name => return .variable name
  | _ => return .field 0

def elementValue (array key : String) : Run Value := do
  let (place, table) ← tableAt array
  match table.get? key with
  | some value => return value
  | none =>
      setCell place (.array (table.put key .missing))
      return .missing

def fetch : Reference → Run Value
  | .variable name => variableValue name
  | .element array key => elementValue array key
  | .field index => fieldValue index

def store (reference : Reference) (value : Value) : Run Unit := do
  match reference with
  | .variable name => setVariable name value
  | .element array key =>
      let (place, table) ← tableAt array
      setCell place (.array (table.put key value))
  | .field index => setField index value

def assign (operator : Option Arithmetic) (target value : Expr) : Run Value := do
  match operator with
  | none =>
      let value ← evaluator.value value
      store (← evaluator.reference target) value
      return value
  | some operator =>
      let right ← evaluator.number value
      let reference ← evaluator.reference target
      let left := (← fetch reference).toNumber
      let result := Value.number (calculate operator left right)
      store reference result
      return result

def increment (before : Bool) (step : Arithmetic) (target : Expr) : Run Value := do
  let reference ← evaluator.reference target
  let old := (← fetch reference).toNumber
  let new := calculate step old 1
  store reference (.number new)
  return .number (if before then new else old)

def receive (target : Option Expr) (record : String) : Run Unit := do
  match target with
  | some target => store (← evaluator.reference target) (Value.ofInput record)
  | none => setRecord record

def getlineMain (target : Option Expr) : Run Value := do
  match ← mainRecord with
  | some record =>
      evaluator.receive target record
      return .number 1
  | none => return .number 0

def getlineFrom (key : String) (target : Option Expr) (counts : Bool) : Run Value := do
  match (← get).sources.lookup key with
  | none => return .number (-1)
  | some source =>
      let (record, lines) ← nextRecord source.lines
      modify fun machine => { machine with
        sources := (key, { source with lines }) :: machine.sources.filter (·.1 != key) }
      match record with
      | some record =>
          if counts then setGlobal "NR" (.ofNat ((← globalNumber "NR") + 1))
          evaluator.receive target record
          return .number 1
      | none => return .number 0

def addSource (key : String) (source : Source) : Run Unit :=
  modify fun machine => { machine with sources := (key, source) :: machine.sources }

def getlineFile (target : Option Expr) (file : Expr) : Run Value := do
  let name ← evaluator.text file
  let key := "<" ++ name
  if ((← get).sources.lookup key).isNone then
    match ← liftTool (Tools.Tool.openInput name) with
    | .ok descriptor => addSource key { lines := { descriptor } }
    | .error _ => return .number (-1)
  evaluator.getlineFrom key target false

def getlineCommand (command : Expr) (target : Option Expr) : Run Value := do
  let name ← evaluator.text command
  let key := "|" ++ name
  if ((← get).sources.lookup key).isNone then
    let (child, descriptor) ← startCommand name false
    addSource key { lines := { descriptor }, child := some child }
  evaluator.getlineFrom key target true

def replace (all : Bool) (arguments : List Expr) : Run Value := do
  match arguments with
  | pattern :: replacement :: rest =>
      let regex ← evaluator.pattern pattern
      let replacement ← evaluator.text replacement
      let target := rest.headD (.field (.number 0))
      let target := match target with
        | .group inner => inner
        | target => target
      let reference? ← match target with
        | .variable _ | .element _ _ | .field _ => some <$> evaluator.reference target
        | _ => pure none
      let before ← match reference? with
        | some reference => fetch reference
        | none => evaluator.value target
      let subject := Subject.ofList (← textOf before).toList
      let (result, count) := replaceFrom regex subject replacement.toList all
        (2 * subject.size + 3) 0 0 none []
      if let some reference := reference? then
        if count != 0 then store reference (.text (String.ofList result))
      return .ofNat count
  | _ => return .missing

def split (arguments : List Expr) : Run Value := do
  match arguments with
  | text :: .variable array :: rest =>
      let text ← evaluator.text text
      let parts ← match rest with
        | [] => splitText (← setting "FS") text
        | separator :: _ =>
            match separator with
            | .regex regex | .group (.regex regex) =>
                let subject := Subject.ofList text.toList
                pure (if text.isEmpty then [] else splitBy regex subject (subject.size + 2) 0 0)
            | separator => splitText (← evaluator.text separator) text
      let elements := parts.zipIdx.map fun (part, index) =>
        (toString (index + 1), Value.ofInput part)
      let (place, _) ← tableAt array
      setCell place (.array (.ofList elements))
      return .ofNat parts.length
  | _ => return .missing

def findMatch (arguments : List Expr) : Run Value := do
  match arguments with
  | [text, pattern] =>
      let subject := Subject.ofList (← evaluator.text text).toList
      let regex ← evaluator.pattern pattern
      let (start, size) : Nat × Float := match regex.search subject 0 with
        | some found => (found.start + 1, Number.ofNat (found.finish - found.start))
        | none => (0, -1)
      setGlobal "RSTART" (.ofNat start)
      setGlobal "RLENGTH" (.number size)
      return .ofNat start
  | _ => return .missing

def sizeOf (arguments : List Expr) : Run Value := do
  match arguments with
  | [] => return .ofNat (← recordNow).length
  | .variable name :: _ =>
      let place ← placeOf name
      let isArray ← match ← cellAt place with
        | .array _ | .alias _ => pure true
        | _ => pure false
      if isArray then return .ofNat (← tableAt name).2.size
      return .ofNat (← textOf (← variableValue name)).length
  | argument :: _ => return .ofNat (← evaluator.text argument).length

def numeric (operation : Float → Float) (arguments : List Expr) : Run Value := do
  match arguments with
  | argument :: _ => return .number (operation (← evaluator.number argument))
  | [] => return .number (operation 0)

def mapped (operation : Char → Char) (arguments : List Expr) : Run Value := do
  match arguments with
  | argument :: _ =>
      return .text (String.ofList ((← evaluator.text argument).toList.map operation))
  | [] => return .text ""

def builtin (name : String) (arguments : List Expr) : Run Value := do
  match name, arguments with
  | "length", _ => evaluator.sizeOf arguments
  | "substr", text :: start :: rest =>
      let text ← evaluator.text text
      let start ← evaluator.number start
      let count ← match rest with
        | count :: _ => some <$> evaluator.number count
        | [] => pure none
      return .text (String.ofList (substring text.toList start count))
  | "index", [text, piece] =>
      let text ← evaluator.text text
      let piece ← evaluator.text piece
      return .ofNat (indexOf piece.toList 1 text.toList)
  | "split", _ => evaluator.split arguments
  | "sub", _ => evaluator.replace false arguments
  | "gsub", _ => evaluator.replace true arguments
  | "match", _ => evaluator.findMatch arguments
  | "sprintf", _ =>
      let values ← arguments.mapM evaluator.value
      let format ← textOf (values.headD .missing)
      let layout ← Layout.extend (format.length + 1) format.toList { items := values.tail }
      if let some fault := layout.fault then
        mistake (fault ++ name ++ "(\"" ++ format ++ "\")")
      return .text (String.ofList layout.text)
  | "sin", _ => evaluator.numeric Float.sin arguments
  | "cos", _ => evaluator.numeric Float.cos arguments
  | "exp", _ => evaluator.numeric Float.exp arguments
  | "log", _ => evaluator.numeric Float.log arguments
  | "sqrt", _ => evaluator.numeric Float.sqrt arguments
  | "int", _ => evaluator.numeric Number.truncated arguments
  | "atan2", [y, x] =>
      let y ← evaluator.number y
      let x ← evaluator.number x
      return .number (Float.atan2 y x)
  | "tolower", _ => evaluator.mapped Char.toLower arguments
  | "toupper", _ => evaluator.mapped Char.toUpper arguments
  | "rand", _ =>
      let random := nextSeed (← get).random
      modify fun machine => { machine with random }
      return .number (Number.ofRatio false (random / Nat.pow 2 11) (Nat.pow 2 53))
  | "srand", _ =>
      let before := (← get).seed
      let seed ← match arguments with
        | argument :: _ => pure (Number.whole (← evaluator.number argument)).toNat
        | [] => pure ((← liftTool (Tools.Tool.ask .clock)) / 1000000)
      modify fun machine => { machine with seed, random := seed }
      return .ofNat before
  | "system", [command] => return .ofNat (← runCommand (← evaluator.text command))
  | "close", [name] =>
      return .number (Number.ofInt (← closeNamed (← evaluator.text name)))
  | "fflush", _ =>
      flushAll
      return .number 0
  | _, _ => return .missing

def parameterCell (argument : Expr) : Run Cell := do
  match argument with
  | .variable name =>
      if specialNames.contains name && name != "ENVIRON" && name != "ARGV" then
        return .value (← variableValue name)
      let place ← placeOf name
      match ← cellAt place with
      | .array _ => return .alias place
      | .alias origin => return .alias origin
      | .fresh _ => return .fresh (some place)
      | .value value => return .value value
  | argument => return .value (← evaluator.value argument)

def call (name : String) (arguments : List Expr) : Run Value := do
  match (← get).functions.find? (·.name == name) with
  | none => stop ("function " ++ name ++ " never defined")
  | some function =>
      let cells ← arguments.mapM evaluator.parameterCell
      let machine ← get
      let base := machine.inners.size
      let missing := function.parameters.length - cells.length
      let inners := cells.toArray ++ (List.replicate missing (Cell.fresh none)).toArray
      set { machine with
        inners := machine.inners ++ inners
        scope := function.parameters.zipIdx.map fun (name, index) => (name, base + index) }
      let leave : Run Unit := modify fun after => { after with
        inners := after.inners.take base, scope := machine.scope }
      let result ← tryCatch (do
        evaluator.statement function.body
        return Value.missing) fun escape =>
          match escape with
          | .giveBack value => return value
          | escape => throw escape
      leave
      return result

def membership (subscripts : List Expr) (array : String) : Run Value := do
  let key ← evaluator.key subscripts
  return .ofBool ((← tableAt array).2.get? key).isSome

def evaluate : Expr → Run Value
  | .number value => return .number value
  | .text value => return .text value
  | .regex regex => do
      return .ofBool (regex.isIn (Subject.ofList (← recordNow).toList))
  | .variable name => variableValue name
  | .element array subscripts => do elementValue array (← evaluator.key subscripts)
  | .field index => do fieldValue (← evaluator.fieldIndex index)
  | .group inner => evaluator.value inner
  | .tuple items => do return .text (← evaluator.key items)
  | .assign operator target value => evaluator.assign operator target value
  | .increment before step target => evaluator.increment before step target
  | .arithmetic operator left right => do
      let left ← evaluator.number left
      let right ← evaluator.number right
      return .number (calculate operator left right)
  | .negative operand => do return .number (-(← evaluator.number operand))
  | .positive operand => do return .number (← evaluator.number operand)
  | .not operand => do return .ofBool !(← evaluator.value operand).isTrue
  | .both left right => do
      if (← evaluator.value left).isTrue then
        return .ofBool (← evaluator.value right).isTrue
      return .ofBool false
  | .either left right => do
      if (← evaluator.value left).isTrue then return .ofBool true
      return .ofBool (← evaluator.value right).isTrue
  | .conditional test yes no => do
      if (← evaluator.value test).isTrue then evaluator.value yes else evaluator.value no
  | .compare operator left right => do
      let left ← evaluator.value left
      let right ← evaluator.value right
      return .ofBool (← compareValues operator left right)
  | .fits negated operand pattern => do
      let text ← evaluator.text operand
      let regex ← evaluator.pattern pattern
      return .ofBool (regex.isIn (Subject.ofList text.toList) != negated)
  | .isIn subscripts array => evaluator.membership subscripts array
  | .concat left right => do
      let left ← evaluator.text left
      let right ← evaluator.text right
      return .text (left ++ right)
  | .call name arguments => evaluator.call name arguments
  | .builtin name arguments => evaluator.builtin name arguments
  | .getline target => evaluator.getlineMain target
  | .getlineFile target file => evaluator.getlineFile target file
  | .getlineCommand command target => evaluator.getlineCommand command target

def emitter (target : Target) : Run (List Char → Run Unit) := do
  let sink (name : Expr) (append command : Bool) : Run (List Char → Run Unit) := do
    let name ← evaluator.text name
    if name = "/dev/stdout" || (name = "-" && !command) then
      return fun text => liftTool (Tools.Tool.put text)
    return writeSink name append command
  match target with
  | .standard => return fun text => liftTool (Tools.Tool.put text)
  | .file name => sink name false false
  | .append name => sink name true false
  | .command name => sink name false true

def printed (value : Value) : Run String := do
  match value with
  | .number number => return Number.toText (← setting "OFMT") number
  | value => return value.toText ""

def print (items : List Expr) (target : Target) : Run Unit := do
  let text ← if items.isEmpty then recordNow
    else do
      let texts ← items.mapM fun item => do printed (← evaluator.value item)
      pure ((← setting "OFS").intercalate texts)
  let ending ← setting "ORS"
  let emit ← evaluator.emitter target
  emit (text.toList ++ ending.toList)

def printf (items : List Expr) (target : Target) : Run Unit := do
  let values ← items.mapM evaluator.value
  let emit ← evaluator.emitter target
  layOut "printf" values emit

def turn (body : Run Unit) : Run Bool :=
  tryCatch (do
    body
    return true) fun escape =>
      match escape with
      | .breakLoop => return false
      | .continueLoop => return true
      | escape => throw escape

def loop (test : Run Bool) (body step : Run Unit) : Run Unit :=
  Kernel.rounds (fun _ => ()) (fun _ => do
    liftTool Tools.Tool.toil
    if !(← test) then return .finished ()
    if !(← turn body) then return .finished ()
    step
    return .again ()) Kernel.endless ()

def forEach (name array : String) (body : Statement) : Run Unit := do
  let (_, table) ← tableAt array
  Kernel.rounds (fun _ => ()) (fun (keys : List String) => do
    match keys with
    | [] => return .finished ()
    | key :: keys =>
        setVariable name (.text key)
        if ← turn (evaluator.statement body) then return .again keys
        else return .finished ()) Kernel.endless table.keys

def optional (statement : Option Statement) : Run Unit := do
  match statement with
  | some statement => evaluator.statement statement
  | none => return ()

def execute : Statement → Run Unit
  | .expression value => do
      let _ ← evaluator.value value
  | .print items target => evaluator.print items target
  | .printf items target => evaluator.printf items target
  | .block statements => statements.forM evaluator.statement
  | .choice test yes no => do
      if (← evaluator.value test).isTrue then evaluator.statement yes
      else evaluator.optional no
  | .whileLoop test body =>
      loop (do return (← evaluator.value test).isTrue) (evaluator.statement body) (return ())
  | .doLoop body test => do
      if ← turn (evaluator.statement body) then
        loop (do return (← evaluator.value test).isTrue) (evaluator.statement body) (return ())
  | .forLoop start test step body => do
      evaluator.optional start
      let holds : Run Bool := match test with
        | some test => do return (← evaluator.value test).isTrue
        | none => return true
      loop holds (evaluator.statement body) (evaluator.optional step)
  | .forEach name array body => evaluator.forEach name array body
  | .delete array subscripts => do
      let (place, table) ← tableAt array
      if subscripts.isEmpty then setCell place (.array {})
      else setCell place (.array (table.erase (← evaluator.key subscripts)))
  | .breakLoop => throw .breakLoop
  | .continueLoop => throw .continueLoop
  | .next => throw .next
  | .nextFile => throw .nextFile
  | .exit status => do
      if let some status := status then
        let number := Number.whole (← evaluator.number status)
        modify fun machine => { machine with status := (number % 256).toNat }
      throw .exit
  | .giveBack value => do
      let value ← match value with
        | some value => evaluator.value value
        | none => pure .missing
      throw (.giveBack value)
  | .empty => return ()

end Evaluator

def evaluatorFor : Nat → Evaluator
  | 0 => {
      value := fun _ => mistake "function call nesting too deep"
      statement := fun _ => mistake "function call nesting too deep" }
  | depth + 1 => {
      value := fun value machine => (evaluatorFor depth).evaluate value machine
      statement := fun statement machine => (evaluatorFor depth).execute statement machine }

def evaluator : Evaluator := evaluatorFor 100000

end Acceptance.Awk
