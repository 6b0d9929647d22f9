import Acceptance.Awk.Evaluation

namespace Acceptance.Tools

open Tool
open Awk (Machine Program Run Value Cell Rule)

namespace Awk

open Acceptance.Awk

structure Invocation where
  separator : Option String := none
  assignments : List String := []
  files : List String := []
  operands : List String := []

def lacks {α : Type} (option : String) : Tool α := do
  complain ("option " ++ option ++ " lacks argument")
  quit 2

def read : Nat → List String → Invocation → Tool Invocation
  | 0, _, invocation => return invocation
  | _, [], invocation => return invocation
  | fuel + 1, word :: rest, invocation => do
      match word.toList with
      | '-' :: 'F' :: text =>
          match text, rest with
          | [], value :: rest => read fuel rest { invocation with separator := some value }
          | [], [] => lacks "-F"
          | text, rest => read fuel rest { invocation with separator := some (String.ofList text) }
      | '-' :: 'v' :: text =>
          let (value, rest) ← match text, rest with
            | [], value :: rest => pure (value, rest)
            | [], [] => lacks "-v"
            | text, rest => pure (String.ofList text, rest)
          if (assignment? value).isNone then
            complain ("improper assignment: -v " ++ value)
            quit 2
          read fuel rest { invocation with assignments := invocation.assignments ++ [value] }
      | '-' :: 'f' :: text =>
          let add (value : String) : Invocation :=
            { invocation with files := invocation.files ++ [value] }
          match text, rest with
          | [], value :: rest => read fuel rest (add value)
          | [], [] => lacks "-f"
          | text, rest => read fuel rest (add (String.ofList text))
      | ['-', '-'] => return { invocation with operands := rest }
      | '-' :: _ :: _ =>
          complain ("not an option: " ++ word)
          quit 2
      | _ => return { invocation with operands := word :: rest }

def programText (invocation : Invocation) : Tool (List Char × Option String × List String) := do
  match invocation.files with
  | [] =>
      match invocation.operands with
      | [] =>
          say "Usage: mawk [Options] [Program] [file ...]\n"
          quit 0
      | text :: operands => return (text.toList, none, operands)
  | files =>
      let texts ← files.mapM fun file => do
        match ← readFile file with
        | .ok text => return text
        | .error cause =>
            complain ("cannot open \"" ++ file ++ "\" (" ++ cause.description ++ ")")
            quit 2
      return (texts.flatten, files.head?, invocation.operands)

def refuse {α : Type} (file : Option String) (fault : Awk.Fault) : Tool α := do
  let place := (file.map (· ++ ": ")).getD ""
  let line := if fault.bare then s!"{fault.line}: " else s!"line {fault.line}: "
  complain (place ++ line ++ fault.message)
  if fault.message = "extra '\x7d'" then
    complain (place ++ line ++ "syntax error at or near end of line")
  quit 2

def numbered (words : List String) : Table :=
  .ofList (words.zipIdx.map fun (word, index) => (toString index, Value.ofInput word))

def initial (program : Program) (words : List String) (settings : Kernel.Settings) : Machine :=
  let value (name : String) : Cell := match name with
    | "FS" | "OFS" => .value (.text " ")
    | "ORS" | "RS" => .value (.text "\n")
    | "SUBSEP" => .value (.text (Char.ofNat 28).toString)
    | "CONVFMT" | "OFMT" => .value (.text "%.6g")
    | "FILENAME" => .value (.text "")
    | "RLENGTH" => .value (.number (-1))
    | "ARGC" => .value (.ofNat words.length)
    | "ARGV" => .array (numbered words)
    | "ENVIRON" =>
        .array (.ofList (settings.map fun (name, value) => (name, Value.ofInput value)))
    | _ => .value (.number 0)
  { functions := program.functions
    names := specialNames.zipIdx
    globals := (specialNames.map value).toArray }

def applies (index : Nat) (rule : Rule) : Run Bool := do
  let holds (test : Expr) : Run Bool := return (← evaluator.value test).isTrue
  match rule.condition with
  | .start | .finish => return false
  | .always => return true
  | .holds test => holds test
  | .range first last =>
      let begun := (← get).active.contains index
      if !begun && !(← holds first) then return false
      let ended ← holds last
      modify fun machine => { machine with
        active := if ended then machine.active.filter (· != index)
          else if begun then machine.active else index :: machine.active }
      return true

def applyRule (index : Nat) (rule : Rule) : Run Unit := do
  if ← applies index rule then
    match rule.body with
    | some body => evaluator.statement body
    | none => evaluator.print [] .standard

def applyRules (rules : List (Rule × Nat)) : Run Unit :=
  tryCatch (rules.forM fun (rule, index) => applyRule index rule) fun escape =>
    match escape with
    | .next => return ()
    | .nextFile => closeInput
    | escape => throw escape

def bodies (isWanted : Condition → Bool) (program : Program) : List Statement :=
  program.rules.filterMap fun rule => if isWanted rule.condition then rule.body else none

def isStart : Condition → Bool
  | .start => true
  | _ => false

def isFinish : Condition → Bool
  | .finish => true
  | _ => false

def runAll (program : Program) : Run Unit := do
  let finishing := bodies isFinish program
  let rules := program.rules.zipIdx.filter fun (rule, _) =>
    !isStart rule.condition && !isFinish rule.condition
  let main : Run Unit := do
    (bodies isStart program).forM evaluator.statement
    if !rules.isEmpty || !finishing.isEmpty then
      Kernel.rounds (fun _ => ()) (fun _ => do
        match ← mainRecord with
        | some record =>
            setRecord record
            applyRules rules
            return .again ()
        | none => return .finished ()) Kernel.endless ()
  tryCatch main fun _ => return ()
  tryCatch (finishing.forM evaluator.statement) fun _ => return ()

def runProgram (program : Program) (invocation : Invocation) (words : List String) :
    Tool Nat := do
  let settings := (← get).settings
  let run : Run Unit := do
    invocation.assignments.forM fun word => do
      if let some (name, value) := assignment? word then assignArgument name value
    if let some separator := invocation.separator then assignArgument "FS" separator
    runAll program
    closeAll
  let (_, machine) ← (run.run).run (initial program words settings)
  return machine.status

end Awk

def awkTool (arguments : List String) : Tool Nat := do
  let invocation ← Awk.read (arguments.length + 1) arguments {}
  let (text, file, operands) ← Awk.programText invocation
  match Acceptance.Awk.readProgram text with
  | .error fault => Awk.refuse file fault
  | .ok program => Awk.runProgram program invocation ((← get).name :: operands)

end Acceptance.Tools
