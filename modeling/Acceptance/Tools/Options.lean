import Acceptance.Tools.Desk

namespace Acceptance.Tools

inductive Arity where
  | none
  | one
  | attached
  deriving DecidableEq

structure Switch where
  key : String
  letter : Option Char
  names : List String := []
  arity : Arity := .none

namespace Switch

def flag (letter : Char) (names : List String) : Switch :=
  { key := letter.toString, letter := some letter, names }

def value (letter : Char) (names : List String) : Switch :=
  { key := letter.toString, letter := some letter, names, arity := .one }

def attached (letter : Char) (names : List String) : Switch :=
  { key := letter.toString, letter := some letter, names, arity := .attached }

def longFlag (name : String) : Switch := { key := name, letter := none, names := [name] }

def longValue (name : String) : Switch :=
  { key := name, letter := none, names := [name], arity := .one }

def longAttached (name : String) : Switch :=
  { key := name, letter := none, names := [name], arity := .attached }

end Switch

structure Given where
  options : List (String × String) := []
  operands : List String := []

namespace Given

def has (given : Given) (key : String) : Bool := given.options.any (·.1 == key)

def value? (given : Given) (key : String) : Option String :=
  (given.options.filter (·.1 == key)).getLast?.map (·.2)

def values (given : Given) (key : String) : List String :=
  (given.options.filter (·.1 == key)).map (·.2)

def last? (given : Given) (keys : List String) : Option String :=
  (given.options.filter fun (key, _) => keys.contains key).getLast?.map (·.1)

def add (given : Given) (key value : String) : Given :=
  { given with options := given.options ++ [(key, value)] }

end Given

inductive Misuse where
  | invalid (letter : Char)
  | unrecognized (word : String)
  | ambiguous (word : String) (names : List String)
  | missing (letter : Char)
  | missingLong (name : String)
  | surplus (name : String)

namespace Misuse

def text : Misuse → String
  | .invalid letter => "invalid option -- '" ++ letter.toString ++ "'"
  | .unrecognized word => "unrecognized option '" ++ word ++ "'"
  | .ambiguous word names =>
      "option '" ++ word ++ "' is ambiguous; possibilities:" ++
        String.join (names.map fun name => " '--" ++ name ++ "'")
  | .missing letter => "option requires an argument -- '" ++ letter.toString ++ "'"
  | .missingLong name => "option '--" ++ name ++ "' requires an argument"
  | .surplus name => "option '--" ++ name ++ "' doesn't allow an argument"

end Misuse

def findLong (switches : List Switch) (name : String) : List (Switch × String) :=
  let all := switches.flatMap fun switch => switch.names.map fun long => (switch, long)
  match all.find? (·.2 == name) with
  | some exact => [exact]
  | none => all.filter fun (_, long) => long.startsWith name

def readLetters (switches : List Switch) : List Char → List String → Given →
    Except Misuse (Given × List String)
  | [], rest, given => .ok (given, rest)
  | c :: more, rest, given =>
      match switches.find? (·.letter == some c) with
      | none => .error (.invalid c)
      | some switch =>
          match switch.arity with
          | .none => readLetters switches more rest (given.add switch.key "")
          | .attached => .ok (given.add switch.key (String.ofList more), rest)
          | .one =>
              if !more.isEmpty then .ok (given.add switch.key (String.ofList more), rest)
              else
                match rest with
                | value :: rest => .ok (given.add switch.key value, rest)
                | [] => .error (.missing c)

def readLong (switches : List Switch) (word : String) (rest : List String) (given : Given) :
    Except Misuse (Given × List String) :=
  let body := word.toList.drop 2
  let name := body.takeWhile (· != '=')
  let value? := match body.drop name.length with
    | _ :: value => some (String.ofList value)
    | [] => none
  let text := String.ofList name
  let found := findLong switches text
  match found with
  | [] => .error (.unrecognized ("--" ++ text))
  | (switch, long) :: others =>
      if others.any fun (other, _) => other.key != switch.key then
        .error (.ambiguous ("--" ++ text) (found.map (·.2)))
      else
        match switch.arity, value? with
        | .none, none => .ok (given.add switch.key "", rest)
        | .none, some _ => .error (.surplus long)
        | .attached, value => .ok (given.add switch.key (value.getD ""), rest)
        | .one, some value => .ok (given.add switch.key value, rest)
        | .one, none =>
            match rest with
            | value :: rest => .ok (given.add switch.key value, rest)
            | [] => .error (.missingLong long)

def readWords (switches : List Switch) (strict : Bool) : Nat → List String → Given →
    Except Misuse Given
  | 0, words, given => .ok { given with operands := given.operands ++ words }
  | _, [], given => .ok given
  | fuel + 1, word :: rest, given =>
      match word.toList with
      | ['-', '-'] => .ok { given with operands := given.operands ++ rest }
      | '-' :: '-' :: _ => do
          let (given, rest) ← readLong switches word rest given
          readWords switches strict fuel rest given
      | '-' :: c :: more => do
          let (given, rest) ← readLetters switches (c :: more) rest given
          readWords switches strict fuel rest given
      | _ =>
          if strict then .ok { given with operands := given.operands ++ word :: rest }
          else
            readWords switches strict fuel rest
              { given with operands := given.operands ++ [word] }

namespace Tool

def hint : Tool String := do
  let desk ← get
  return desk.usage ++ (if desk.signsHints then desk.name ++ ": " else "") ++
    "Try '" ++ desk.name ++ " --help' for more information.\n"

def misused {α : Type} (message : String) : Tool α := do
  warn message
  tell (← hint)
  quit (← get).trouble

-- The help and version options are known to all tools; their texts are not.
def withCommon (switches : List Switch) : List Switch :=
  switches ++ [.longFlag "help", .longFlag "version"]

def optionsIn (strict : Bool) (switches : List Switch) (arguments : List String) :
    Tool Given := do
  match readWords (withCommon switches) strict (arguments.length + 1) arguments {} with
  | .ok given =>
      if given.has "help" || given.has "version" then quit 0 else return given
  | .error misuse => misused misuse.text

def options (switches : List Switch) (arguments : List String) : Tool Given :=
  optionsIn false switches arguments

def missingOperand {α : Type} : Tool α := misused "missing operand"

def extraOperand {α : Type} (operand : String) : Tool α :=
  misused ("extra operand " ++ quote operand)

end Tool
end Acceptance.Tools
