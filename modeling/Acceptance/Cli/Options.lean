
namespace Acceptance.Cli

-- The options of the command line: how they are written, and which command takes which.

inductive Name where
  | language
  | config
  | testsDir
  | case
  | timeout
  | html
  | json
  | verbose
  | output
  | nonInteractive
  | force
  | help
  | version
  deriving DecidableEq, Repr

inductive Kind where
  -- Any text that is not empty.
  | path
  | text
  | number
  deriving DecidableEq, Repr

namespace Name

def long : Name → String
  | .language => "lang"
  | .config => "config"
  | .testsDir => "tests-dir"
  | .case => "case"
  | .timeout => "timeout"
  | .html => "html"
  | .json => "json"
  | .verbose => "verbose"
  | .output => "output"
  | .nonInteractive => "non-interactive"
  | .force => "force"
  | .help => "help"
  | .version => "version"

def short? : Name → Option Char
  | .config => some 'c'
  | .testsDir => some 't'
  | .verbose => some 'v'
  | .output => some 'o'
  | .help => some 'h'
  | .version => some 'V'
  | _ => none

def operand? : Name → Option (String × Kind)
  | .language => some ("LANGUAGE", .text)
  | .config => some ("CONFIG", .path)
  | .testsDir => some ("TESTS_DIR", .path)
  | .case => some ("NAME", .text)
  | .timeout => some ("SECS", .number)
  | .html => some ("HTML", .path)
  | .json => some ("JSON", .path)
  | .output => some ("PATH", .path)
  | .verbose | .nonInteractive | .force | .help | .version => none

def repeats : Name → Bool
  | .case => true
  | _ => false

def shown (name : Name) : String :=
  match name.operand? with
  | some (operand, _) => "--" ++ name.long ++ " <" ++ operand ++ ">"
  | none => "--" ++ name.long

end Name

-- The commands with options of their own. No command at all is `root`, which runs the cases.
inductive Level where
  | root
  | run
  | init
  deriving DecidableEq, Repr

namespace Level

def options : Level → List Name
  | .root =>
      [.language, .config, .testsDir, .case, .timeout, .html, .json, .verbose, .help, .version]
  | .run => [.config, .language, .testsDir, .case, .timeout, .html, .json, .verbose, .help]
  | .init => [.language, .output, .nonInteractive, .force, .help]

def commands : Level → List String
  | .root => ["run", "init", "help"]
  | .run | .init => []

def ofLong? (level : Level) (long : String) : Option Name :=
  level.options.find? (·.long == long)

def ofShort? (level : Level) (short : Char) : Option Name :=
  level.options.find? (·.short? == some short)

end Level
end Acceptance.Cli
