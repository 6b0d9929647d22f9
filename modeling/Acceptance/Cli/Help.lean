import Acceptance.Cli.Marked
import Acceptance.Cli.Options
import Acceptance.Config
import Acceptance.Phrases

namespace Acceptance.Cli

def programName : String := "golden-runner"
def versionText : String := programName ++ " 0.1.0"

def helpAbout : String := "Print this message or the help of the given subcommand(s)"

namespace Name

def description (phrases : Phrases) : Name → String
  | .language => phrases.languageOption
  | .config => phrases.configOption
  | .testsDir => phrases.testsDirOption
  | .case => phrases.caseOption
  | .timeout => phrases.timeoutOption
  | .html => phrases.htmlOption
  | .json => phrases.jsonOption
  | .verbose => phrases.verboseOption
  | .output => phrases.outputOption
  | .nonInteractive => phrases.nonInteractiveOption
  | .force => phrases.forceOption
  | .help => "Print help"
  | .version => "Print version"

def default? : Name → Option String
  | .config | .output => some Config.defaultFile
  | _ => none

def column (name : Name) : Marked :=
  let letter : Marked := match name.short? with
    | some short => [.literal ("-" ++ String.singleton short), ", "]
    | none => ["    "]
  let operand : Marked := match name.operand? with
    | some (operand, _) => [" <" ++ operand ++ ">"]
    | none => []
  letter ++ .literal ("--" ++ name.long) :: operand

end Name

-- A heading and below it two columns, the first one as wide as its longest entry.
def table (title : String) (rows : List (Marked × String)) : Marked :=
  let width := (rows.map (·.1.plain.length)).foldl max 0
  let line : Marked × String → Marked := fun (left, right) =>
    let gap := String.ofList (List.replicate (width - left.plain.length + 2) ' ')
    .plain "\n  " :: left ++ [.plain (gap ++ right)]
  .heading (title ++ ":") :: rows.flatMap line

def optionTable (phrases : Phrases) (level : Level) : Marked :=
  table "Options" (level.options.map fun name =>
    let default := match name.default? with
      | some value => s!" [default: {value}]"
      | none => ""
    (name.column, name.description phrases ++ default))

def commandTable (phrases : Phrases) : Marked :=
  table "Commands" [([.literal "run"], phrases.runAbout), ([.literal "init"], phrases.initAbout),
    ([.literal "help"], helpAbout)]

def helpText (about command operands : String) (tables : List Marked) : Marked :=
  let usage : Marked :=
    [.plain (about ++ "\n\n"), .heading "Usage:", " ", .literal command, .plain (" " ++ operands)]
  usage ++ tables.flatMap (.plain "\n\n" :: ·)

def help (phrases : Phrases) : Level → Marked
  | .root =>
      helpText phrases.about programName "[OPTIONS] [COMMAND]"
        [commandTable phrases, optionTable phrases .root]
  | .run =>
      helpText phrases.runAbout (programName ++ " run") "[OPTIONS]" [optionTable phrases .run]
  | .init =>
      helpText phrases.initAbout (programName ++ " init") "[OPTIONS]" [optionTable phrases .init]

def helpOnHelp : Marked :=
  helpText helpAbout (programName ++ " help") "[COMMAND]..."
    [table "Arguments" [(["[COMMAND]..."], "Print help for the subcommand(s)")]]

end Acceptance.Cli
