import Acceptance.Cli.Arguments
import Acceptance.Cli.Help
import Acceptance.Run
import Acceptance.Wizard

namespace Acceptance.Cli

-- The program: from its arguments and its environment to its end and everything it prints.

-- The language that the environment asks for. Of a list of languages only the first counts, even
-- if it is empty; encoding and modifier are dropped.
def detectedLanguage (env : Environment) : String :=
  let value? (name : String) : Option (List Char) :=
    match (env.get? name).map String.toList with
    | some [] => none
    | other => other
  let first? := (value? "LANGUAGE").map (·.takeWhile (· != ':'))
  match first?.or ((value? "LC_ALL").or ((value? "LC_MESSAGES").or (value? "LANG"))) with
  | some tag =>
      String.ofList ((tag.takeWhile fun c => c != '.' && c != '@').map fun c =>
        if c == '_' then '-' else c)
  | none => "en"

-- The standard output is no terminal, so colours have to be asked for.
def wantsColor (env : Environment) : Bool :=
  match env.get? "CLICOLOR_FORCE" with
  | some value => value != "0"
  | none => false

-- Help and usage messages follow other rules: any value but the empty one asks for colours, and
-- another variable forbids them.
def wantsMarks (env : Environment) : Bool :=
  let isSet (name : String) : Bool := (env.get? name).any (!·.isEmpty)
  isSet "CLICOLOR_FORCE" && !isSet "NO_COLOR"

def runOptions (found : Matches) (language : Option String) : RunOptions where
  config := (found.value? .config).getD Config.defaultFile
  configRequired := found.has .config
  testsDir := found.value? .testsDir
  cases := found.values .case
  timeoutSeconds := (found.value? .timeout).bind fun text => (readNumber text).toOption
  html := found.value? .html
  json := found.value? .json
  verbose := found.has .verbose
  language := language

def UsageError.report (error : UsageError) : Marked :=
  let start : Marked := [.fault "error:", " "]
  let advice : Marked := ["\n\nFor more information, try '", .literal "--help", "'."]
  start ++ error.parts ++ advice

def halt (colored : Bool) (phrases : Phrases) (session : Session) : Halt → Completion × Session
  | .help level => (.exited 0, session.say ((help phrases level).shown colored))
  | .helpOnHelp => (.exited 0, session.say (helpOnHelp.shown colored))
  | .version => (.exited 0, session.say versionText)
  | .usage error => (.exited 2, session.warn (error.report.shown colored))

def fail (session : Session) (chain : List String) : Completion × Session :=
  (.exited 1, session.warn ("Error: " ++ ": ".intercalate chain))

def perform (host : Host) (language : Option String) (keys : Option (List Keys.Key))
    (session : Session) (parsed : Parsed) : Completion × Session :=
  match parsed.level with
  | .init =>
      let shown : Presentation := { locale := host.locale, colored := host.colored }
      let path := Text.ofText ((parsed.own.value? .output).getD Config.defaultFile)
      match Wizard.run host.env shown path (parsed.own.has .nonInteractive)
          (parsed.own.has .force) keys session with
      | (.ok (), session) => (.exited 0, session)
      | (.error (.unanswered .interrupted), session) => (.signaled 2 false, session)
      | (.error cause, session) => fail session (cause.chain host.locale.phrases)
  | .root | .run =>
      match Run.execute host (runOptions parsed.own language).asNames session with
      | (.ok _, session) => (.exited 0, session)
      | (.error stopped, session) => (.exited 1, session.warn ("Error: " ++ stopped.message))

def program (launch : Launcher) (env : Environment) (keys : Option (List Keys.Key))
    (arguments : List String) (session : Session) : Completion × Session :=
  let language := scannedLanguage arguments
  let locale := Locale.resolve (language.getD (detectedLanguage env))
  let host : Host :=
    { launch, env, colored := wantsColor env, locale, detected := locale.tag }
  match parse arguments with
  | .error cause => halt (wantsMarks env) locale.phrases session cause
  | .ok parsed => perform host language keys session parsed

-- The language is looked for before anything else, and there the program breaks down if one of
-- its arguments is no text.
def start (launch : Launcher) (env : Environment) (keys : Option (List Keys.Key))
    (raw : List Text.Bytes) (session : Session) : Completion × Session :=
  match readTexts raw with
  | none => (.exited 101, session)
  | some arguments => program launch env keys arguments session

end Acceptance.Cli
