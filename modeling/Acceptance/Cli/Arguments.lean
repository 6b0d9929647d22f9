import Acceptance.Cli.Marked
import Acceptance.Cli.Options

namespace Acceptance.Cli

inductive UsageError where
  | unexpectedArgument (argument : String)
  | unknownCommand (argument : String)
  | valueRequired (option : Name)
  | invalidValue (option : Name) (value reason : String)
  | repeated (option : Name)
  | unexpectedValue (option : Name) (value : String)
  deriving DecidableEq, Repr

def UsageError.parts : UsageError → Marked
  | .unexpectedArgument argument => ["unexpected argument '", .invalid argument, "' found"]
  | .unknownCommand argument => ["unrecognized subcommand '", .invalid argument, "'"]
  | .valueRequired option =>
      ["a value is required for '", .invalid option.shown, "' but none was supplied"]
  | .invalidValue option value reason =>
      ["invalid value '", .invalid value, "' for '", .literal option.shown, "': ", reason]
  | .repeated option =>
      ["the argument '", .invalid option.shown, "' cannot be used multiple times"]
  | .unexpectedValue option value =>
      ["unexpected value '", .invalid value, "' for '", .literal option.shown,
        "' found; no more were expected"]

def UsageError.message (error : UsageError) : String := error.parts.plain

inductive Halt where
  | usage (error : UsageError)
  | help (level : Level)
  | helpOnHelp
  | version
  deriving DecidableEq, Repr

-- The digits of a number from left to right; what is wrong first decides.
def readDigits : Nat → List Char → Except String Nat
  | value, [] => .ok value
  | value, c :: rest =>
      if !c.isDigit then .error "invalid digit found in string"
      else
        let next := value * 10 + (c.toNat - '0'.toNat)
        if UInt64.size ≤ next then .error "number too large to fit in target type"
        else readDigits next rest

def readNumber (text : String) : Except String Nat :=
  match text.toList with
  | [] => .error "cannot parse integer from empty string"
  | '+' :: c :: rest => readDigits 0 (c :: rest)
  | digits => readDigits 0 digits

def checkValue (option : Name) (value : String) : Except UsageError Unit :=
  match option.operand? with
  | some (_, .path) => if value.isEmpty then .error (.valueRequired option) else .ok ()
  | some (_, .number) =>
      match readNumber value with
      | .ok _ => .ok ()
      | .error reason => .error (.invalidValue option value reason)
  | some (_, .text) | none => .ok ()

-- The options taken so far, in order, and one that is not complete yet.
structure Matches where
  taken : List (Name × String) := []
  pending : Option (Name × Option String) := none
  deriving DecidableEq, Repr

namespace Matches

def has (found : Matches) (option : Name) : Bool := found.taken.any (·.1 == option)

def value? (found : Matches) (option : Name) : Option String := found.taken.lookup option

def values (found : Matches) (option : Name) : List String :=
  (found.taken.filter (·.1 == option)).map (·.2)

def take (found : Matches) (option : Name) (value : String) : Except UsageError Matches := do
  if found.has option && !option.repeats then .error (.repeated option)
  else
    checkValue option value
    return { found with taken := found.taken ++ [(option, value)] }

def settle (found : Matches) : Except UsageError Matches :=
  match found.pending with
  | none => .ok found
  | some (option, none) => .error (.valueRequired option)
  | some (option, some value) => { found with pending := none }.take option value

def isWaiting (found : Matches) : Bool :=
  match found.pending with
  | some (_, none) => true
  | _ => false

end Matches

def usage {α : Type} : Except UsageError α → Except Halt α
  | .ok value => .ok value
  | .error error => .error (.usage error)

-- A flag takes effect at once; the flags for help and version end everything.
def raise (level : Level) (found : Matches) (option : Name) : Except Halt Matches := do
  let found ← usage found.settle
  match option with
  | .help => .error (.help level)
  | .version => .error .version
  | _ => usage (found.take option "true")

def begin (found : Matches) (option : Name) (attached : Option String) : Except Halt Matches := do
  let found ← usage found.settle
  match attached with
  | some value => usage (found.take option value)
  | none => return { found with pending := some (option, none) }

def readLong (level : Level) (found : Matches) (text : List Char) : Except Halt Matches :=
  let name := String.ofList (text.takeWhile (· != '='))
  let attached := match text.dropWhile (· != '=') with
    | _ :: value => some (String.ofList value)
    | [] => none
  match level.ofLong? name with
  | none => .error (.usage (.unexpectedArgument ("--" ++ name)))
  | some option =>
      if option.operand?.isSome then begin found option attached
      else
        match attached with
        | some value => .error (.usage (.unexpectedValue option value))
        | none => raise level found option

def readShort (level : Level) : Matches → List Char → Except Halt Matches
  | found, [] => .ok found
  | found, c :: rest =>
      match level.ofShort? c with
      | none => .error (.usage (.unexpectedArgument (String.ofList ['-', c])))
      | some option =>
          if option.operand?.isSome then
            let attached := match rest with
              | [] => none
              | '=' :: value => some (String.ofList value)
              | value => some (String.ofList value)
            begin found option attached
          else do readShort level (← raise level found option) rest

-- An argument that is no option and no value.
def refusal (level : Level) (onlyPlain : Bool) (argument : String) : UsageError :=
  if level.commands.isEmpty || (onlyPlain && level.commands.contains argument) then
    .unexpectedArgument argument
  else .unknownCommand argument

inductive Reading where
  | finished (found : Matches)
  | command (found : Matches) (name : String) (rest : List String)
  deriving DecidableEq, Repr

-- Reads arguments up to the end or another command. After `--` there are no options.
def readArguments (level : Level) (onlyPlain : Bool) : Matches → List String → Except Halt Reading
  | found, [] => do return .finished (← usage found.settle)
  | found, argument :: rest =>
      if onlyPlain then .error (.usage (refusal level true argument))
      else if !found.isWaiting && level.commands.contains argument then
        .ok (.command found argument rest)
      else
        match argument.toList with
        | ['-', '-'] => readArguments level true found rest
        | '-' :: '-' :: text => do
            readArguments level false (← readLong level found text) rest
        | '-' :: c :: text => do
            readArguments level false (← readShort level found (c :: text)) rest
        | _ =>
            match found.pending with
            | some (option, none) =>
                let pending := some (option, some argument)
                readArguments level false { found with pending } rest
            | _ => .error (.usage (refusal level false argument))

def helpFor : List String → Halt
  | [] => .help .root
  | ["run"] => .help .run
  | ["init"] => .help .init
  | ["help"] => .helpOnHelp
  | name :: next :: _ =>
      .usage (.unknownCommand (if Level.root.commands.contains name then next else name))
  | [name] => .usage (.unknownCommand name)

-- The options of the command that was chosen, and those given in front of its name.
structure Parsed where
  level : Level
  outer : Matches := {}
  own : Matches
  deriving DecidableEq, Repr

def readCommand (level : Level) (outer : Matches) (rest : List String) : Except Halt Parsed := do
  match ← readArguments level false {} rest with
  | .command _ name _ => .error (.usage (.unexpectedArgument name))
  | .finished own => return { level, outer := ← usage outer.settle, own }

def parse (arguments : List String) : Except Halt Parsed := do
  match ← readArguments .root false {} arguments with
  | .finished own => return { level := .root, own }
  | .command outer "run" rest => readCommand .run outer rest
  | .command outer "init" rest => readCommand .init outer rest
  | .command _ _ rest => .error (helpFor rest)

-- The language found without reading the other arguments: what follows the first `--lang`, else
-- what is attached to the first one.
def scannedLanguage (arguments : List String) : Option String :=
  match arguments.dropWhile (· != "--lang") with
  | _ :: rest => rest.head?
  | [] =>
      arguments.findSome? fun argument =>
        let mark := "--lang=".toList
        if mark.isPrefixOf argument.toList then
          some (String.ofList (argument.toList.drop mark.length))
        else none

-- The arguments as texts. There are none if one of them is no text.
def readTexts (raw : List Text.Bytes) : Option (List String) := raw.mapM Text.ofUtf8?

end Acceptance.Cli
