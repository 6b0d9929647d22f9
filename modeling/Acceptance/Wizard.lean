import Acceptance.Collaborators
import Acceptance.Config.Render
import Acceptance.Keys
import Acceptance.Phrases
import Acceptance.Session
import Acceptance.Style

namespace Acceptance

-- Writing a first configuration file, either with the defaults or with the answers to a few
-- questions.

def Config.header : String := "\n".intercalate [
  "# Golden Runner configuration / Golden Runner 配置",
  "#",
  "# Placeholders available in command lines / 命令行中可用的占位符:",
  "#   \x7bcase\x7d \x7bdir\x7d \x7bspec\x7d \x7binput\x7d \x7bexpected\x7d \x7bprogram\x7d " ++
    "\x7bactual\x7d \x7bdiagnostics\x7d",
  "# Set `diff = \"builtin\"` for an in-process exact comparison.",
  "# Uncomment to bound every collaborator run / 取消注释以限制每次协作进程运行的时间:",
  "# timeout_secs = 30",
  "",
  ""
]

inductive WizardError where
  | unanswered (cause : Keys.Unanswered)
  | collaborators (cause : Fault)
  | directory (path : String) (cause : IoError)
  | file (path : String) (cause : IoError)
  deriving DecidableEq, Repr

def WizardError.chain (phrases : Phrases) : WizardError → List String
  | .unanswered .noKeys =>
      [phrases.inputFailed, "IO error: not a terminal", "not a terminal"]
  | .unanswered .interrupted =>
      [phrases.inputFailed, "IO error: read interrupted", "read interrupted"]
  | .collaborators cause => phrases.invalidCollaborator :: cause.chain
  | .directory path cause => [phrases.parentNotCreated (Text.shown path), cause.message]
  | .file path cause => [phrases.configNotWritten (Text.shown path), cause.message]

namespace Wizard

abbrev Answer (α : Type) := Except Keys.Unanswered (α × List Keys.Key)

def ask (default : String) (keys : List Keys.Key) : Answer String :=
  (Keys.typeLine {} keys).map fun (typed, keys) =>
    (if typed.isEmpty then default else String.ofList typed, keys)

-- The answer to a question for yes or no; the enter key means no.
def confirm : List Keys.Key → Answer Bool
  | [] => .error .noKeys
  | key :: keys =>
      if key = .character 'y' ∨ key = .character 'Y' then .ok (true, keys)
      else if key = .character 'n' ∨ key = .character 'N' ∨ key = .enter then .ok (false, keys)
      else if key = .interrupt then .error .interrupted
      else confirm keys

-- What the questions are answered with. None is asked after one that stays without an answer.
structure Replies where
  overwrite : Except Keys.Unanswered Bool
  testsDir : Except Keys.Unanswered String
  compiler : Except Keys.Unanswered String
  vm : Except Keys.Unanswered String
  builtin : Except Keys.Unanswered Bool
  hint : Except Keys.Unanswered String

def Replies.mayOverwrite (replies : Replies) (guarded : Bool) : Except Keys.Unanswered Bool :=
  if guarded then replies.overwrite else .ok true

def Replies.config (replies : Replies) (language : String) : Except Keys.Unanswered Config := do
  let defaults : Config := {}
  let testsDir ← replies.testsDir
  let compiler ← replies.compiler
  let vm ← replies.vm
  let builtin ← replies.builtin
  let hint ← replies.hint
  return { defaults with
    language := some language, testsDir, compiler, vm, hint
    diff := if builtin then Config.builtinComparator else defaults.diff }

def taken {α : Type} : Answer α → Except Keys.Unanswered α × List Keys.Key
  | .ok (value, keys) => (.ok value, keys)
  | .error cause => (.error cause, [])

-- The answers that are typed, with or without the question whether to overwrite. Without a
-- terminal there are none.
def Replies.typed (asked : Bool) : Option (List Keys.Key) → Replies
  | none =>
      let nothing {α : Type} : Except Keys.Unanswered α := .error .noKeys
      ⟨nothing, nothing, nothing, nothing, nothing, nothing⟩
  | some keys =>
      let defaults : Config := {}
      let (overwrite, keys) := if asked then taken (confirm keys) else (.ok true, keys)
      let (testsDir, keys) := taken (ask defaults.testsDir keys)
      let (compiler, keys) := taken (ask defaults.compiler keys)
      let (vm, keys) := taken (ask defaults.vm keys)
      let (builtin, keys) := taken (confirm keys)
      let (hint, _) := taken (ask defaults.hint keys)
      { overwrite, testsDir, compiler, vm, builtin, hint }

def content (config : Config) : String := Config.header ++ config.render

def makeParent (path : String) (tree : FileTree) : Except WizardError FileTree :=
  match Path.parent? path with
  | some parent =>
      if parent.isEmpty then .ok tree
      else
        match tree.makeDirectories parent with
        | .ok tree => .ok tree
        | .error cause => .error (.directory parent cause)
  | none => .ok tree

def writeFile (shown : Presentation) (path : String) (config : Config) (session : Session) :
    Except WizardError Unit × Session :=
  match makeParent path session.tree with
  | .error cause => (.error cause, session)
  | .ok tree =>
      let session := { session with tree }
      match session.write path (content config) with
      | .error cause => (.error (.file path cause), session)
      | .ok session =>
          let phrases := shown.locale.phrases
          (.ok (), (session.say
            (shown.paint .green (phrases.configWritten (Text.shown path)))).say phrases.nextSteps)

def finish (env : Environment) (shown : Presentation) (path : String) (config : Config)
    (session : Session) : Except WizardError Unit × Session :=
  match Collaborators.ofConfig env config with
  | .error cause => (.error (.collaborators cause), session)
  | .ok _ => writeFile shown path config session

-- Whether a file is in the way that may not be overwritten without asking.
def isGuarded (tree : FileTree) (path : String) (force : Bool) : Bool :=
  tree.pathExists path && !force

-- Without questions: the defaults, unless the file is already there.
def runQuietly (env : Environment) (shown : Presentation) (path : String) (force : Bool)
    (session : Session) : Except WizardError Unit × Session :=
  let phrases := shown.locale.phrases
  if isGuarded session.tree path force then
    (.ok (), (session.say (shown.paint .red (phrases.fileExists (Text.shown path)))).say
      (shown.paint .yellow phrases.useForce))
  else finish env shown path {} session

def runAsking (env : Environment) (shown : Presentation) (path : String) (force : Bool)
    (replies : Replies) (session : Session) (language : String) :
    Except WizardError Unit × Session :=
  let phrases := shown.locale.phrases
  let session := (session.say ("\n" ++ shown.paint .boldCyan phrases.welcome)).say
    phrases.wizardDescription
  match replies.mayOverwrite (isGuarded session.tree path force) with
  | .error cause => (.error (.unanswered cause), session)
  | .ok false => (.ok (), session.say phrases.wizardAborted)
  | .ok true =>
      match replies.config language with
      | .error cause => (.error (.unanswered cause), session)
      | .ok config => finish env shown path config session

def runAnswered (env : Environment) (shown : Presentation) (path : String) (quiet force : Bool)
    (replies : Replies) (session : Session) (language : String) :
    Except WizardError Unit × Session :=
  if quiet then runQuietly env shown path force session
  else runAsking env shown path force replies session language

def run (env : Environment) (shown : Presentation) (path : String) (quiet force : Bool)
    (keys : Option (List Keys.Key)) (session : Session) (language : String := shown.locale.tag) :
    Except WizardError Unit × Session :=
  runAnswered env shown path quiet force
    (.typed (isGuarded session.tree path force) keys) session language

end Wizard
end Acceptance
