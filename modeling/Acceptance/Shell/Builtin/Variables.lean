import Acceptance.Shell.Builtin.Printing

namespace Acceptance.Shell.Builtin

open Action

def readOptions (letters : String) : Nat → List String →
    Action (List (Char × String) × List String)
  | 0, arguments => return ([], arguments)
  | _, [] => return ([], [])
  | fuel + 1, argument :: rest => do
      match argument.toList with
      | ['-', '-'] => return ([], rest)
      | '-' :: c :: more => do
          let known := letters.toList.dropWhile (· != c)
          if known.isEmpty || c = ':' then fail ("Illegal option -" ++ c.toString)
          else if (known.drop 1).head? = some ':' then
            match more, rest with
            | [], [] => fail ("No arg for -" ++ c.toString ++ " option")
            | [], value :: rest =>
                let (options, operands) ← readOptions letters fuel rest
                return ((c, value) :: options, operands)
            | more, rest =>
                let (options, operands) ← readOptions letters fuel rest
                return ((c, String.ofList more) :: options, operands)
          else
            let rest := if more.isEmpty then rest else String.ofList ('-' :: more) :: rest
            let (options, operands) ← readOptions letters fuel rest
            return ((c, "") :: options, operands)
      | _ => return ([], argument :: rest)

def optionsOf (letters : String) (arguments : List String) :
    Action (List (Char × String) × List String) :=
  readOptions letters ((arguments.map String.length).foldl (· + ·) arguments.length) arguments

def plainNumber (text : String) : Action Nat := do
  if text.isEmpty || !text.toList.all Char.isDigit then fail ("Illegal number: " ++ text)
  else return Format.natOf text.toList

def quoteText : Nat → List Char → List Char
  | 0, _ => []
  | fuel + 1, text =>
      let plain := text.takeWhile (· != '\'')
      let rest := text.drop plain.length
      let marks := rest.takeWhile (· == '\'')
      let after := rest.drop marks.length
      let first := '\'' :: plain ++ ['\'']
      if marks.isEmpty then first
      else
        let second := '"' :: marks ++ ['"']
        if after.isEmpty then first ++ second else first ++ second ++ quoteText fuel after

def singleQuoted (text : String) : String :=
  String.ofList (quoteText (text.length + 1) text.toList)

def showVariables (start : String) (wanted : Variable → Bool) : Action Unit := do
  let bindings := ((← get).bindings.filter wanted).mergeSort fun left right =>
    decide (left.name ≤ right.name)
  bindings.forM fun shown =>
    emit (start ++ shown.name ++
      (shown.value.map fun value => "=" ++ singleQuoted value).getD "" ++ "\n")

def checkName (name : String) : Action Unit := do
  if !isName name then fail (name ++ ": bad variable name")

def attribute_ (command : String) (mark : Variable → Variable) (marked : Variable → Bool)
    (arguments : List String) : Action Nat := do
  let (options, operands) ← optionsOf "p" arguments
  if options.isEmpty && !operands.isEmpty then
    operands.forM fun operand => do
      let (name, value) := splitAssignment operand
      checkName name
      if let some value := value then assign name value
      modify fun state => state.putVariable (mark ((state.variable_ name).getD { name }))
  else showVariables (command ++ " ") marked
  return 0

def export_ (arguments : List String) : Action Nat :=
  attribute_ "export" (fun shown => { shown with exported := true }) (·.exported) arguments

def readonly (arguments : List String) : Action Nat :=
  attribute_ "readonly" (fun shown => { shown with fixed := true }) (·.fixed) arguments

def local_ (arguments : List String) : Action Nat := do
  if (← get).calls = 0 then fail "not in a function"
  arguments.forM fun operand => do
    let (name, value) := splitAssignment operand
    if name != "-" then
      checkName name
      makeLocal name
      if let some value := value then assign name value
  return 0

def unset (arguments : List String) : Action Nat := do
  let (options, operands) ← optionsOf "vf" arguments
  let functions := (options.getLast?.map (·.1)) == some 'f'
  operands.forM fun name => do
    if functions then
      modify fun state => { state with functions := state.functions.filter (·.1 != name) }
    else
      checkName name
      match (← get).variable_ name with
      | some old =>
          if old.fixed then fail (name ++ ": is read only")
          modify (·.dropVariable name)
      | none => pure ()
  return 0

def shellOptions : List (String × String) := [
  ("e", "errexit"), ("f", "noglob"), ("I", "ignoreeof"), ("i", "interactive"), ("m", "monitor"),
  ("n", "noexec"), ("s", "stdin"), ("x", "xtrace"), ("v", "verbose"), ("V", "vi"),
  ("E", "emacs"), ("C", "noclobber"), ("a", "allexport"), ("b", "notify"), ("u", "nounset"),
  ("p", "privileged"), ("nolog", "nolog"), ("debug", "debug")]

def setOption (key : String) (value : Bool) : Action Unit :=
  modify fun state =>
    let others := state.options.filter (· != key)
    { state with options := if value then key :: others else others }

def setLetter (c : Char) (value : Bool) : Action Unit := do
  if (shellOptions.map (·.1)).contains c.toString then setOption c.toString value
  else fail ("Illegal option -" ++ c.toString)

def padRight (width : Nat) (text : String) : String :=
  text ++ String.ofList (List.replicate (width - text.length) ' ')

def showOptions (asCommands : Bool) : Action Unit := do
  let options := (← get).options
  if !asCommands then emit "Current option settings\n"
  shellOptions.forM fun (key, name) => do
    let isSet := options.contains key
    if asCommands then emit ("set " ++ (if isSet then "-o " else "+o ") ++ name ++ "\n")
    else emit (padRight 16 name ++ (if isSet then "on" else "off") ++ "\n")

def setNamed (name : Option String) (value : Bool) : Action Unit := do
  match name with
  | none => showOptions !value
  | some name =>
      match shellOptions.find? (·.2 == name) with
      | some (key, _) => setOption key value
      | none => fail ("Illegal option -o " ++ name)

-- What is left after options: the operands, whether their list was ended by two dashes, and the
-- command that was given to run.
structure Remainder where
  operands : List String
  ended : Bool := false
  wantsCommand : Bool := false

def setLetters (atStart value : Bool) : List Char → Remainder → Action Remainder
  | [], remainder => return remainder
  | c :: rest, remainder => do
      if c = 'c' && atStart then
        setLetters atStart value rest { remainder with wantsCommand := true }
      else if c = 'l' && atStart then setLetters atStart value rest remainder
      else if c = 'o' then
        setNamed remainder.operands.head? value
        setLetters atStart value rest { remainder with operands := remainder.operands.tail }
      else
        setLetter c value
        setLetters atStart value rest remainder

def setWords (atStart : Bool) : Nat → Remainder → Action Remainder
  | 0, remainder => return remainder
  | fuel + 1, remainder => do
      match remainder.operands with
      | [] => return remainder
      | word :: rest =>
          match word.toList with
          | ['-'] =>
              if !atStart then
                setOption "x" false
                setOption "v" false
              return { remainder with operands := rest }
          | ['-', '-'] => return { remainder with operands := rest, ended := true }
          | '-' :: letters =>
              setWords atStart fuel
                (← setLetters atStart true letters { remainder with operands := rest })
          | '+' :: letters =>
              setWords atStart fuel
                (← setLetters atStart false letters { remainder with operands := rest })
          | _ => return remainder

def set_ (arguments : List String) : Action Nat := do
  if arguments.isEmpty then
    showVariables "" fun shown => shown.value.isSome
  else
    let remainder ← setWords false (arguments.length + 1) { operands := arguments }
    if remainder.ended || !remainder.operands.isEmpty then
      modify fun state => { state with parameters := remainder.operands, optionOffset := 0 }
  return 0

def shift (arguments : List String) : Action Nat := do
  let count ← match arguments with
    | [] => pure 1
    | text :: _ => plainNumber text
  let state ← get
  if state.parameters.length < count then fail "can't shift that many"
  set { state with parameters := state.parameters.drop count, optionOffset := 0 }
  return 0

-- A line while it is read: its stretches, the last one first, each with its last piece first.
structure Line where
  stretches : List Stretch := []
  escaped : Bool := false

def Line.add (line : Line) (cutting : Cutting) (c : Char) : Line :=
  let piece := Piece.glyph ⟨c, false⟩
  { stretches :=
      match line.stretches with
      | last :: before =>
          if last.cutting = cutting && cutting != .whole then
            { last with pieces := piece :: last.pieces } :: before
          else { pieces := [piece], cutting } :: last :: before
      | [] => [{ pieces := [piece], cutting }] }

def Line.inOrder (line : Line) : List Stretch :=
  (line.stretches.map fun stretch => { stretch with pieces := stretch.pieces.reverse }).reverse

def readLine (raw : Bool) : Action (Bool × Line) :=
  Kernel.rounds (fun line => (false, line)) (fun (line : Line) => do
    match ← perform (.read 0 1) with
    | .error .interrupted =>
        if (← get).traps.isEmpty then return .again line else return .finished (false, line)
    | .error _ => return .finished (false, line)
    | .ok bytes =>
        match Text.ofBytes bytes with
        | [] => return .finished (false, line)
        | c :: _ =>
            if c = '\x00' then return .again line
            else if line.escaped then
              if c = '\n' then return .again { line with escaped := false }
              else return .again (line.add .whole c)
            else if c = '\\' && !raw then return .again { line with escaped := true }
            else if c = '\n' then return .finished (true, line)
            else return .again (line.add .atSeparators c)) Kernel.endless {}

def assignFields : List String → List String → Action Unit
  | [], _ => return ()
  | name :: names, fields => do
      checkName name
      assign name (fields.headD "")
      assignFields names fields.tail

def read (arguments : List String) : Action Nat := do
  let (options, names) ← optionsOf "p:r" arguments
  if names.isEmpty then fail "arg count"
  let (complete, line) ← readLine (options.any (·.1 == 'r'))
  let separators := (← get).separators
  let fields := Fields.split separators (some names.length) line.inOrder
  assignFields names (fields.map Piece.text)
  return if complete then 0 else 1

def getopts (arguments : List String) : Action Nat := do
  match arguments with
  | letters :: name :: rest =>
      let state ← get
      let words := if rest.isEmpty then state.parameters else rest
      let index := ((state.lookup "OPTIND").bind String.toNat?).getD 1
      let index := max index 1
      let current := if state.optionOffset = 0 then [] else
        ((words[index - 2]?).getD "").toList.drop state.optionOffset
      let quiet := letters.toList.head? == some ':'
      let finish (done : Nat) (c : String) (index offset : Nat) : Action Nat := do
        assign "OPTIND" (toString index)
        modify fun state => { state with optionOffset := offset }
        assign name c
        return done
      let (text, index, offset) := if !current.isEmpty then (current, index, state.optionOffset)
        else ((words[index - 1]?.getD "").toList.drop 1, index + 1, 1)
      let fresh := current.isEmpty
      let word := words[index - 2]?
      let isOption := match word.map String.toList with
        | some ('-' :: _ :: _) => true
        | _ => false
      if fresh && !isOption then finish 1 "?" (index - 1) 0
      else if fresh && word = some "--" then finish 1 "?" index 0
      else
        match text with
        | [] => finish 1 "?" index 0
        | c :: more =>
            let next := if more.isEmpty then 0 else offset + 1
            let known := letters.toList.dropWhile (· != c)
            if known.isEmpty || c = ':' then
              if quiet then assign "OPTARG" c.toString
              else
                print 2 ("Illegal option -" ++ c.toString ++ "\n")
                modify (·.dropVariable "OPTARG")
              finish 0 "?" index next
            else if (known.drop 1).head? = some ':' then
              if !more.isEmpty then
                assign "OPTARG" (String.ofList more)
                finish 0 c.toString index 0
              else
                match words[index - 1]? with
                | some value =>
                    assign "OPTARG" value
                    finish 0 c.toString (index + 1) 0
                | none =>
                    if quiet then
                      assign "OPTARG" c.toString
                      finish 0 ":" index 0
                    else
                      print 2 ("No arg for -" ++ c.toString ++ " option\n")
                      modify (·.dropVariable "OPTARG")
                      finish 0 "?" index 0
            else
              assign "OPTARG" ""
              finish 0 c.toString index next
  | _ => fail "Usage: getopts optstring var [arg...]"

def alias_ (arguments : List String) : Action Nat := do
  let aliases := (← get).aliases
  if arguments.isEmpty then
    aliases.forM fun (name, value) => emit (name ++ "=" ++ singleQuoted value ++ "\n")
    return 0
  let statuses ← arguments.mapM fun argument => do
    match splitAssignment argument with
    | (name, some value) =>
        modify fun state => { state with
          aliases := state.aliases.filter (·.1 != name) ++ [(name, value)] }
        return 0
    | (name, none) =>
        match (← get).aliases.lookup name with
        | some value =>
            emit (name ++ "=" ++ singleQuoted value ++ "\n")
            return 0
        | none =>
            print 2 ("alias: " ++ name ++ " not found\n")
            return 1
  return statuses.foldl max 0

def unalias (arguments : List String) : Action Nat := do
  let (options, names) ← optionsOf "a" arguments
  if !options.isEmpty then
    modify fun state => { state with aliases := [] }
    return 0
  let statuses ← names.mapM fun name => do
    if ((← get).aliases.lookup name).isSome then
      modify fun state => { state with aliases := state.aliases.filter (·.1 != name) }
      return 0
    else
      print 2 ("unalias: " ++ name ++ " not found\n")
      return 1
  return statuses.foldl max 0

end Acceptance.Shell.Builtin
