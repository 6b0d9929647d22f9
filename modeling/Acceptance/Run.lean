import Acceptance.Config.Load
import Acceptance.Discovery
import Acceptance.Pipeline
import Acceptance.Report.Document
import Acceptance.Report.Lines
import Acceptance.Report.Page
import Acceptance.Selection

namespace Acceptance

-- A whole run: load the configuration, discover and select cases, take each one through the
-- pipeline, report.

structure RunOptions where
  config : String := Config.defaultFile
  -- Whether the configuration file has to be there.
  configRequired : Bool := false
  testsDir : Option String := none
  cases : List String := []
  timeoutSeconds : Option Nat := none
  html : Option String := none
  json : Option String := none
  verbose : Bool := false
  language : Option String := none
  deriving DecidableEq, Repr

-- The paths as names.
def RunOptions.asNames (options : RunOptions) : RunOptions :=
  { options with
    config := Text.ofText options.config
    testsDir := options.testsDir.map Text.ofText
    html := options.html.map Text.ofText
    json := options.json.map Text.ofText }

structure Host where
  launch : Launcher
  env : Environment
  reading : Reading := .whole
  colored : Bool := false
  -- The language of messages until the configuration is known.
  locale : Locale := .english
  detected : String := "en"

inductive RunError where
  | config (cause : Config.LoadError)
  | collaborators (cause : Fault)
  | discovery (root : String) (cause : Fault)
  | case (name : String) (cause : Fault)

def Config.LoadError.chain (phrases : Phrases) : Config.LoadError → List String
  | .unreadable path cause => [phrases.configReadFailed (Text.shown path), cause.message]
  | .malformed .notADocument => [phrases.configParseFailed, "TOML parse error"]
  | .malformed (.problem cause) =>
      [phrases.configParseFailed, "TOML parse error: " ++ cause.message]

def RunError.chain (phrases : Phrases) : RunError → List String
  | .config cause => cause.chain phrases
  | .collaborators cause => phrases.invalidCollaborator :: cause.chain
  | .discovery root cause => phrases.discoveryFailed (Text.shown root) :: cause.chain
  | .case name cause => phrases.caseAborted name :: cause.chain

structure Stopped where
  locale : Locale
  cause : RunError

def Stopped.message (stopped : Stopped) : String :=
  ": ".intercalate (stopped.cause.chain stopped.locale.phrases)

namespace Run

-- What is asked for explicitly wins over the configuration, and that over what was detected.
def chosenLocale (host : Host) (options : RunOptions) (config : Config) : Locale :=
  Locale.resolve ((options.language.or config.language).getD host.detected)

def override (options : RunOptions) (config : Config) : Config :=
  { config with
    testsDir := options.testsDir.getD (Text.ofText config.testsDir)
    layout := config.layout.asNames
    timeoutSeconds := options.timeoutSeconds.or config.timeoutSeconds }

def loadedLine (shown : Presentation) : Option String → String
  | some path => shown.locale.phrases.configLoaded (Text.shown path)
  | none => shown.paint .dimmed shown.locale.phrases.configDefaults

def pipelineFor (host : Host) (shown : Presentation) (options : RunOptions) (config : Config)
    (collaborators : Collaborators) : Pipeline where
  launch := host.launch
  collaborators := collaborators
  bound := config.timeoutSeconds.map (· * 1000)
  verbose := options.verbose
  shown := shown

-- The cases one after the other, up to the first fault.
def runCases (pipeline : Pipeline) : List Case → Summary → Session →
    Except (String × Fault) Summary × Session
  | [], summary, session => (.ok summary, session)
  | case :: cases, summary, session =>
      match pipeline.runCase case (session.say (Report.bannerLine pipeline.shown case.name)) with
      | (.error fault, session) => (.error (case.name, fault), session)
      | (.ok record, session) =>
          runCases pipeline cases (summary.add record)
            (session.say (Report.outcomeLine pipeline.shown record))

def saveReport (kind path content : String) (session : Session) : Except String Session :=
  match session.write path content with
  | .ok session => .ok session
  | .error cause => .error (s!"Failed to write {kind} to {Text.shown path}: " ++ cause.message)

def saveHtml (locale : Locale) (hint : Hint) (summary : Summary) (path : String)
    (session : Session) : Except String Session :=
  saveReport "HTML report" path (Report.html locale hint summary) session

def saveJson (summary : Summary) (path : String) (session : Session) : Except String Session :=
  saveReport "JSON summary" path (Report.json summary) session

-- That a report cannot be written is told and then forgotten.
def keepReport (shown : Presentation) (session : Session) : Except String Session → Session
  | .ok session => session
  | .error text =>
      session.warn (shown.paint .red shown.locale.phrases.reportFailed ++ " " ++ text)

def writeHtml (shown : Presentation) (hint : Hint) (summary : Summary) (session : Session) :
    Option String → Session
  | none => session
  | some path =>
      let session := session.say ("\n" ++ shown.locale.phrases.htmlReport (Text.shown path))
      keepReport shown session (saveHtml shown.locale hint summary path session)

def writeJson (shown : Presentation) (summary : Summary) (session : Session) :
    Option String → Session
  | none => session
  | some path => keepReport shown session (saveJson summary path session)

-- The cases of a run, and the requested names that no case has.
def select (options : RunOptions) (config : Config) (cases : List Case) : Selection :=
  Selection.ofNames (if config.sortCases then sortCases cases else cases) options.cases

def announce (shown : Presentation) (config : Config) (selection : Selection)
    (session : Session) : Session :=
  (session.sayAll (selection.unknown.map fun name =>
      shown.paint .yellow (shown.locale.phrases.unknownCase name))).say
    (Report.discoveryLine shown selection.selected.length
      (Text.shown (session.tree.displayPath config.testsDir)))

def conclude (shown : Presentation) (options : RunOptions) (config : Config) (summary : Summary)
    (session : Session) : Session :=
  let hint := Hint.ofConfig config
  let session := session.sayAll (Report.shownSummary shown hint summary)
  let session := writeHtml shown hint summary session options.html
  writeJson shown summary session options.json

def runConfigured (host : Host) (shown : Presentation) (options : RunOptions) (config : Config)
    (session : Session) : Except RunError Summary × Session :=
  match Collaborators.ofConfig host.env config with
  | .error fault => (.error (.collaborators fault), session)
  | .ok collaborators =>
      match discoverRead host.reading session.tree config.testsDir config.layout with
      | .error fault => (.error (.discovery config.testsDir fault), session)
      | .ok cases =>
          let selection := select options config cases
          let session := announce shown config selection session
          let pipeline := pipelineFor host shown options config collaborators
          match runCases pipeline selection.selected (.empty selection.selected.length) session with
          | (.error (name, fault), session) => (.error (.case name fault), session)
          | (.ok summary, session) =>
              (.ok summary, conclude shown options config summary session)

def execute (host : Host) (options : RunOptions) (session : Session) :
    Except Stopped Summary × Session :=
  match Config.load session.tree options.config options.configRequired with
  | .error cause => (.error { locale := host.locale, cause := .config cause }, session)
  | .ok (config, file) =>
      let locale := chosenLocale host options config
      let shown : Presentation := { locale, colored := host.colored }
      let session := session.say (loadedLine shown file)
      match runConfigured host shown options (override options config) session with
      | (.error cause, session) => (.error { locale, cause }, session)
      | (.ok summary, session) => (.ok summary, session)

end Run
end Acceptance
