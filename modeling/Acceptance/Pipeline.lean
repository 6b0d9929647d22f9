import Acceptance.Collaborators
import Acceptance.CompileFailure
import Acceptance.Session
import Acceptance.Style

namespace Acceptance

open Command (Template)

-- The way of one case: compile it, run the program, compare the output.

inductive CompileStatus where
  | compiled
  -- The reason, and what the compiler wrote until then.
  | failed (reason : CompileFailure) (output : String)
  deriving DecidableEq, Repr

structure Pipeline where
  launch : Launcher
  collaborators : Collaborators
  bound : Option Nat := none
  verbose : Bool := false
  shown : Presentation := {}

namespace Pipeline

def phrases (pipeline : Pipeline) : Phrases := pipeline.shown.locale.phrases

def logCommand (pipeline : Pipeline) (template : Template) (case : Case) (session : Session) :
    Session :=
  if pipeline.verbose then
    session.say ("  " ++ pipeline.shown.paint .blue pipeline.phrases.commandLead ++ " " ++
      template.render (Bindings.ofCase case))
  else session

def request (template : Template) (case : Case) : Request where
  program := template.program
  arguments := template.fill (Bindings.ofCase case)

def compileResult (pipeline : Pipeline) (case : Case) (completion : Completion)
    (output : String) (tree : FileTree) : CompileStatus :=
  if completion = .timedOut then .failed (.timedOut (pipeline.bound.getD 0)) output
  else if !completion.isSuccess then .failed (.exited completion) output
  else if !tree.isFile case.program then .failed (.noProgram case.program) output
  else .compiled

def startCompiler (pipeline : Pipeline) (case : Case) (input : Place) (session : Session) :
    CompileStatus × Session :=
  let compiler := pipeline.collaborators.compiler
  let session := pipeline.logCommand compiler case session
  let asked := { request compiler case with
    input := .opened input, output := .collected, diagnostics := .collected }
  match pipeline.launch.start pipeline.bound .compile asked session with
  | (.refused cause, session) => (.failed (.notStarted compiler.program cause) "", session)
  | (.ended completion collected tree _, session) =>
      (pipeline.compileResult case completion (Text.lossy (captured collected)) tree, session)

-- The program of an earlier run is removed first, so that a program found afterwards was made by
-- this compiler.
def compile (pipeline : Pipeline) (case : Case) (session : Session) : CompileStatus × Session :=
  match session.tree.removeStale case.program with
  | .error cause => (.failed (.staleProgram case.program cause) "", session)
  | .ok tree =>
      let session := { session.emit (.removed case.program) with tree }
      match tree.locate case.input with
      | .error cause => (.failed (.missingInput case.input cause) "", session)
      | .ok input => pipeline.startCompiler case input session

def openArtifact (path : String) (session : Session) : Except Fault Place × Session :=
  match session.tree.locate path with
  | .ok place => (.ok place, session)
  | .error cause => (.error (.artifact path cause), session)

def createArtifact (path : String) (session : Session) : Except Fault Place × Session :=
  match session.tree.create path with
  | .ok (place, tree) => (.ok place, { session.emit (.created path) with tree })
  | .error cause => (.error (.artifact path cause), session)

def startMachine (pipeline : Pipeline) (case : Case) (program output diagnostics : Place)
    (session : Session) : Except Fault Completion × Session :=
  let vm := pipeline.collaborators.vm
  let session := pipeline.logCommand vm case session
  let asked := { request vm case with
    input := .opened program, output := .opened output, diagnostics := .opened diagnostics }
  match pipeline.launch.start pipeline.bound .execute asked session with
  | (.refused cause, session) => (.error (.spawn .execute vm.program cause), session)
  | (.ended completion _ _ _, session) =>
      if completion = .timedOut then
        let text := pipeline.phrases.vmTimedOut case.name (pipeline.bound.getD 0 / 1000)
        (.ok completion, session.say (pipeline.shown.paint .yellow text))
      else (.ok completion, session)

-- Runs the program. How the machine ends does not matter for the outcome: the output that it
-- leaves is compared all the same.
def execute (pipeline : Pipeline) (case : Case) (session : Session) :
    Except Fault Completion × Session :=
  match openArtifact case.program session with
  | (.error fault, session) => (.error fault, session)
  | (.ok program, session) =>
      match createArtifact case.actualOutput session with
      | (.error fault, session) => (.error fault, session)
      | (.ok output, session) =>
          match createArtifact case.actualDiagnostics session with
          | (.error fault, session) => (.error fault, session)
          | (.ok diagnostics, session) =>
              pipeline.startMachine case program output diagnostics session

def outcomeOf (identical : Bool) : Outcome := if identical then .passed else .runtimeMismatch

def compare (pipeline : Pipeline) (case : Case) (session : Session) :
    Except Fault Outcome × Session :=
  match pipeline.collaborators.comparator with
  | .builtin =>
      (.ok (outcomeOf (session.tree.sameContent case.actualOutput case.expected)), session)
  | .external diff =>
      let session := pipeline.logCommand diff case session
      match pipeline.launch.start pipeline.bound .diff (request diff case) session with
      | (.refused cause, session) => (.error (.spawn .diff diff.program cause), session)
      | (.ended completion _ _ _, session) => (.ok (outcomeOf completion.isSuccess), session)

-- What is shown of a case that did not compile. That time ran out is always shown.
def failureBlocks (pipeline : Pipeline) (reason : CompileFailure) (output : String) :
    List String :=
  let message := reason.message pipeline.phrases
  let reasonBlocks := match reason with
    | .timedOut _ => [pipeline.shown.paint .red message]
    | _ => if pipeline.verbose then ["  " ++ pipeline.shown.paint .yellow message] else []
  let shownOutput := Text.trimEnd output.toList
  let outputBlocks :=
    if pipeline.verbose && !shownOutput.isEmpty then
      [pipeline.shown.paint .dimmed pipeline.phrases.compilerOutputHeader,
        String.ofList shownOutput]
    else []
  reasonBlocks ++ outputBlocks

def mismatchBlocks (pipeline : Pipeline) (case : Case) (outcome : Outcome) : List String :=
  if pipeline.verbose && outcome = .runtimeMismatch then
    ["  " ++ pipeline.shown.paint .dimmed
      (pipeline.phrases.mismatchArtifacts (Text.shown case.actualOutput)
        (Text.shown case.expected) (Text.shown case.actualDiagnostics))]
  else []

def finish (pipeline : Pipeline) (case : Case) (session : Session) :
    Except Fault Outcome × Session :=
  match pipeline.execute case session with
  | (.error fault, session) => (.error fault, session)
  | (.ok _, session) =>
      match pipeline.compare case session with
      | (.error fault, session) => (.error fault, session)
      | (.ok outcome, session) =>
          (.ok outcome, session.sayAll (pipeline.mismatchBlocks case outcome))

def classify (pipeline : Pipeline) (case : Case) (session : Session) :
    Except Fault Outcome × Session :=
  match pipeline.compile case session with
  | (.compiled, session) => pipeline.finish case session
  | (.failed reason output, session) =>
      (.ok .compileFailed, session.sayAll (pipeline.failureBlocks reason output))

def runCase (pipeline : Pipeline) (case : Case) (session : Session) :
    Except Fault Record × Session :=
  match pipeline.classify case session with
  | (.error fault, after) => (.error fault, after)
  | (.ok outcome, after) =>
      (.ok { name := case.name, outcome,
             duration := Duration.ofParts 0 ((after.clock - session.clock) * 1000000) }, after)

end Pipeline
end Acceptance
