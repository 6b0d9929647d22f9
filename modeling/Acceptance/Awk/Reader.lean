import Acceptance.Awk.Basic
import Acceptance.Awk.Number
import Acceptance.Kernel.Program

namespace Acceptance.Awk

inductive Token where
  | newline
  | number (value : Float)
  | text (value : String)
  | regex (source : String)
  | name (name : String)
  | callee (name : String)
  | word (word : String)
  | sign (sign : String)
  | ending

structure Fault where
  line : Nat
  message : String
  bare : Bool := false

def keywords : List String :=
  ["BEGIN", "END", "function", "func", "if", "else", "while", "for", "do", "break", "continue",
    "next", "nextfile", "exit", "return", "delete", "in", "getline", "print", "printf"]

def builtins : List String :=
  ["length", "substr", "index", "split", "sub", "gsub", "match", "sprintf", "sin", "cos", "atan2",
    "exp", "log", "sqrt", "int", "rand", "srand", "tolower", "toupper", "system", "close",
    "fflush"]

def signs : List String :=
  ["&&", "||", "++", "--", "+=", "-=", "*=", "/=", "%=", "^=", "==", "<=", ">=", "!=", "!~", ">>",
    "(", ")", "[", "]", "\x7b", "\x7d", ";", ",", "+", "-", "*", "/", "%", "^", "!", "<", ">", "=",
    "~", "?", ":", "$", "|"]

-- Whether an operand has just ended, so that a slash divides.
def endsOperand : Token → Bool
  | .number _ | .text _ | .regex _ | .name _ => true
  | .word word => builtins.contains word
  | .sign sign => [")", "]", "$", "++", "--"].contains sign
  | _ => false

def unescape : Nat → List Char → List Char
  | 0, text => text
  | fuel + 1, '\\' :: c :: rest =>
      match Format.control? c with
      | some control => if c = '\\' || c = '"' then '\\' :: c :: unescape fuel rest
          else control :: unescape fuel rest
      | none =>
          if (Format.octalDigit? c).isSome then
            let (value, after) := Format.octal 3 (c :: rest)
            Format.octet value :: unescape fuel after
          else if c = 'x' then
            let (value, after) := Format.digits Format.hexDigit? 16 2 0 rest
            if after.length < rest.length then Format.octet value :: unescape fuel after
            else '\\' :: c :: unescape fuel rest
          else '\\' :: c :: unescape fuel rest
  | fuel + 1, c :: rest => c :: unescape fuel rest
  | _, [] => []

def constantText : Nat → List Char → List Char
  | 0, text => text
  | fuel + 1, '\\' :: '\\' :: rest => '\\' :: constantText fuel rest
  | fuel + 1, '\\' :: '"' :: rest => '"' :: constantText fuel rest
  | fuel + 1, '\\' :: c :: rest =>
      let escaped := unescape 2 ['\\', c]
      if escaped.length = 1 && (Format.octalDigit? c).isNone then
        escaped ++ constantText fuel rest
      else if (Format.octalDigit? c).isSome then
        let (value, after) := Format.octal 3 (c :: rest)
        Format.octet value :: constantText fuel after
      else if c = 'x' then
        let (value, after) := Format.digits Format.hexDigit? 16 2 0 rest
        if after.length < rest.length then Format.octet value :: constantText fuel after
        else '\\' :: c :: constantText fuel rest
      else '\\' :: c :: constantText fuel rest
  | fuel + 1, c :: rest => c :: constantText fuel rest
  | _, [] => []

def stringSource : Nat → List Char → List Char → Option (List Char × List Char)
  | 0, _, _ => none
  | _, _, [] => none
  | _, read, '"' :: rest => some (read.reverse, rest)
  | _, _, '\n' :: _ => none
  | fuel + 1, read, '\\' :: '\n' :: rest => stringSource fuel read rest
  | fuel + 1, read, '\\' :: c :: rest => stringSource fuel (c :: '\\' :: read) rest
  | fuel + 1, read, c :: rest => stringSource fuel (c :: read) rest

-- An expression up to a slash that is not within brackets.
def regexSource : Nat → Bool → List Char → List Char → Option (List Char × List Char)
  | 0, _, _, _ => none
  | _, _, _, [] => none
  | _, _, _, '\n' :: _ => none
  | fuel + 1, inside, read, '\\' :: c :: rest =>
      if c = '/' then regexSource fuel inside ('/' :: read) rest
      else regexSource fuel inside (c :: '\\' :: read) rest
  | fuel + 1, inside, read, c :: rest =>
      if c = '/' && !inside then some (read.reverse, rest)
      else if c = '[' && !inside then
        -- A bracket that closes at once is a member.
        match rest with
        | '^' :: ']' :: rest => regexSource fuel true (']' :: '^' :: c :: read) rest
        | ']' :: rest => regexSource fuel true (']' :: c :: read) rest
        | rest => regexSource fuel true (c :: read) rest
      else if c = ']' then regexSource fuel false (c :: read) rest
      else regexSource fuel inside (c :: read) rest

def excerpt (mark : Char) (text : List Char) : String :=
  let line := text.takeWhile (· != '\n')
  String.ofList (mark :: line.take 10) ++ " ..."

def isNameStart (c : Char) : Bool := c.isAlpha || c == '_'

def token (before : Token) (line : Nat) (text : List Char) :
    Except Fault (Token × List Char) :=
  match text with
  | [] => .ok (.ending, [])
  | '\n' :: rest => .ok (.newline, rest)
  | '"' :: rest =>
      match stringSource (rest.length + 1) [] rest with
      | some (source, rest) =>
          .ok (.text (String.ofList (constantText (source.length + 1) source)), rest)
      | none => .error { line, message := "runaway string constant " ++ excerpt '"' rest }
  | c :: rest =>
      if c = '/' && !endsOperand before then
        match regexSource (rest.length + 1) false [] rest with
        | some (source, rest) => .ok (.regex (String.ofList source), rest)
        | none => .error { line, message := "runaway regular expression " ++ excerpt '/' rest }
      else if c.isDigit || (c = '.' && (rest.head?.any Char.isDigit)) then
        match Number.decimal? text with
        | some (value, rest) => .ok (.number value, rest)
        | none => .error { line, message := "syntax error at or near " ++ c.toString }
      else if isNameStart c then
        let name := text.takeWhile fun c => c.isAlphanum || c == '_'
        let rest := text.drop name.length
        let name := String.ofList name
        if keywords.contains name || builtins.contains name then .ok (.word name, rest)
        else if rest.head? = some '(' then .ok (.callee name, rest)
        else .ok (.name name, rest)
      else
        match signs.find? fun sign => sign.toList.isPrefixOf text with
        | some sign => .ok (.sign sign, text.drop sign.length)
        | none =>
            .error { line, message := "unexpected character '" ++ c.toString ++ "'", bare := true }

def skipBlanks : Nat → Nat → List Char → Nat × List Char
  | 0, line, text => (line, text)
  | fuel + 1, line, c :: rest =>
      if c = ' ' || c = '\t' || c = '\r' then skipBlanks fuel line rest
      else if c = '\\' && rest.head? = some '\n' then skipBlanks fuel (line + 1) (rest.drop 1)
      else if c = '#' then skipBlanks fuel line (rest.dropWhile (· != '\n'))
      else (line, c :: rest)
  | _, line, [] => (line, [])

def tokens : Nat → Token → Nat → List Char → Except Fault (List (Token × Nat))
  | 0, _, line, _ => .ok [(.ending, line)]
  | fuel + 1, before, line, text => do
      let (line, text) := skipBlanks (text.length + 1) line text
      if text.isEmpty then return [(.newline, line), (.ending, line + 1)]
      let (found, rest) ← token before line text
      let next := match found with
        | .newline => line + 1
        | _ => line
      return (found, line) :: (← tokens fuel found next rest)

structure Parser where
  rest : List (Token × Nat)
  functions : List String
  braces : Nat := 0
  inFunction : Bool := false
  inLoop : Bool := false
  inEnds : Bool := false
  calls : List (String × Nat × Nat) := []

abbrev Parse := StateT Parser (Except Fault)

structure Setting where
  beforeArrow : Bool := false
  beforeIn : Bool := false

structure Rules where
  expression : Setting → Parse Expr
  statement : Parse Statement

namespace Parse

def peek : Parse Token := return match (← get).rest with
  | (token, _) :: _ => token
  | [] => .ending

def peekSecond : Parse Token := return match (← get).rest with
  | _ :: (token, _) :: _ => token
  | _ => .ending

def line : Parse Nat := return match (← get).rest with
  | (_, line) :: _ => line
  | [] => 1

def drop : Parse Unit := modify fun parser => { parser with rest := parser.rest.tail }

def fail {α : Type} (message : String) : Parse α := do
  throw { line := ← line, message }

def tokenText : Token → String
  | .newline => "end of line"
  | .number value => Number.toText "%.6g" value
  | .text value => "\"" ++ value ++ "\""
  | .regex source => "/" ++ source ++ "/"
  | .name name | .callee name | .word name | .sign name => name
  | .ending => "end of file"

def refuse {α : Type} : Parse α := do
  let parser ← get
  match ← peek with
  | .ending =>
      if parser.braces != 0 then fail "missing \x7d near end of file"
      else fail "syntax error at or near end of line"
  | .sign "\x7d" =>
      if parser.braces = 0 then fail "extra '\x7d'" else fail "syntax error at or near \x7d"
  | token => fail ("syntax error at or near " ++ tokenText token)

def isSign (token : Token) (sign : String) : Bool :=
  match token with
  | .sign found => found == sign
  | _ => false

def isWord (token : Token) (word : String) : Bool :=
  match token with
  | .word found => found == word
  | _ => false

def takes (sign : String) : Parse Bool := do
  if isSign (← peek) sign then
    drop
    return true
  return false

def takesWord (word : String) : Parse Bool := do
  if isWord (← peek) word then
    drop
    return true
  return false

def demand (sign : String) : Parse Unit := do
  if !(← takes sign) then refuse

def skipNewlines : Parse Unit := do
  let isNewline : Token × Nat → Bool := fun (token, _) =>
    match token with
    | .newline => true
    | _ => false
  modify fun parser => { parser with rest := parser.rest.dropWhile isNewline }

def regexDialect : Regex.Dialect :=
  { extended := true, lenient := true, bracketEscapes := true, references := false,
    intervals := false }

end Parse

def regexFault : Regex.Fault → String
  | .openGroup => "missing ')'"
  | .openBracket => "class -- [], [^] or [: :] not closed"
  | _ => "missing operand"

inductive Spot where
  | bracket
  | fresh
  | filled
  deriving DecidableEq

def lacksOperand : Spot → List Char → Bool
  | spot, [] => spot == .fresh
  | .bracket, ']' :: rest => lacksOperand .filled rest
  | .bracket, _ :: rest => lacksOperand .bracket rest
  | _, '\\' :: _ :: rest => lacksOperand .filled rest
  | _, '[' :: '^' :: ']' :: rest => lacksOperand .bracket rest
  | _, '[' :: ']' :: rest => lacksOperand .bracket rest
  | _, '[' :: rest => lacksOperand .bracket rest
  | _, '(' :: rest => lacksOperand .fresh rest
  | spot, ')' :: rest => spot == .fresh || lacksOperand .filled rest
  | spot, '|' :: rest => spot == .fresh || lacksOperand .fresh rest
  | spot, c :: rest =>
      (spot == .fresh && (c == '*' || c == '+' || c == '?')) || lacksOperand .filled rest

def compileRegex (text : List Char) : Except String Regex :=
  let source := unescape (text.length + 1) text
  if source.isEmpty then .ok (Regex.literal [])
  else
    match Regex.compile Parse.regexDialect source with
    | .ok compiled =>
        if lacksOperand .fresh source then
          .error ("regular expression compile failed (missing operand)\n" ++ String.ofList text)
        else .ok compiled.regex
    | .error cause =>
        .error ("regular expression compile failed (" ++ regexFault cause ++ ")\n" ++
          String.ofList text)

namespace Rules

open Parse

variable (rules : Rules)

def expressions (close : String) : Parse (List Expr) := do
  skipNewlines
  if ← takes close then return []
  let first ← rules.expression {}
  Kernel.rounds (fun found => found.reverse) (fun found => do
    skipNewlines
    if ← takes close then return .finished found.reverse
    demand ","
    skipNewlines
    return .again ((← rules.expression {}) :: found)) Kernel.endless [first]

def isTarget : Expr → Bool
  | .variable _ | .element _ _ | .field _ => true
  | _ => false

def target? : Parse (Option Expr) := do
  match ← peek with
  | .name name =>
      drop
      if ← takes "[" then return some (.element name (← rules.expressions "]"))
      return some (.variable name)
  | _ => return none

def arity : String → Nat × Nat
  | "substr" => (2, 3)
  | "split" => (2, 3)
  | "sub" | "gsub" => (2, 3)
  | "index" | "match" | "atan2" => (2, 2)
  | "length" => (0, 1)
  | "rand" => (0, 0)
  | "srand" | "fflush" => (0, 1)
  | "sprintf" => (1, 1000)
  | _ => (1, 1)

def functionCall (name : String) : Parse Expr := do
  demand "("
  let arguments ← rules.expressions ")"
  let line ← line
  modify fun parser => { parser with calls := (name, arguments.length, line) :: parser.calls }
  return .call name arguments

def builtinCall (name : String) : Parse Expr := do
  if name = "length" && !isSign (← peek) "(" then return .builtin name []
  demand "("
  let arguments ← rules.expressions ")"
  let (least, most) := arity name
  if arguments.length < least || most < arguments.length then
    fail ("wrong number of arguments in call to " ++ name)
  return .builtin name arguments

def assignment? : Token → Option (Option Arithmetic)
  | .sign "=" => some none
  | .sign "+=" => some (some .add)
  | .sign "-=" => some (some .subtract)
  | .sign "*=" => some (some .multiply)
  | .sign "/=" => some (some .divide)
  | .sign "%=" => some (some .modulo)
  | .sign "^=" => some (some .power)
  | _ => none

def step? : Token → Option Arithmetic
  | .sign "++" => some .add
  | .sign "--" => some .subtract
  | _ => none

def operand : Nat → Parse Expr
  | 0 => refuse
  | depth + 1 => do
      let token ← peek
      match token with
      | .number value =>
          drop
          return .number value
      | .text value =>
          drop
          return .text value
      | .regex source =>
          match compileRegex source.toList with
          | .ok regex =>
              drop
              return .regex regex
          | .error message => fail message
      | .name name =>
          drop
          if ← takes "[" then return .element name (← rules.expressions "]")
          if (← get).functions.contains name && isSign (← peek) "(" then
            return ← rules.functionCall name
          return .variable name
      | .callee name =>
          drop
          rules.functionCall name
      | .sign "(" =>
          drop
          let items ← rules.expressions ")"
          match items with
          | [item] => return .group item
          | items =>
              if isWord (← peek) "in" then
                drop
                match ← peek with
                | .name name =>
                    drop
                    return .isIn items name
                | _ => refuse
              return .tuple items
      | .sign "$" =>
          drop
          match step? (← peek) with
          | some step =>
              drop
              return .field (.increment true step (← operand depth))
          | none =>
              if ← takes "-" then return .field (.negative (← operand depth))
              return .field (← operand depth)
      | .sign "-" =>
          drop
          return .negative (← operand depth)
      | .sign "+" =>
          drop
          return .positive (← operand depth)
      | .sign "!" =>
          drop
          return .not (← operand depth)
      | .word "getline" =>
          drop
          let target ← match ← peek with
            | .name _ => rules.target?
            | .sign "$" => some <$> operand depth
            | _ => pure none
          if ← takes "<" then return .getlineFile target (← operand depth)
          return .getline target
      | .word name =>
          if builtins.contains name then
            drop
            rules.builtinCall name
          else refuse
      | token =>
          match step? token with
          | some step =>
              drop
              let target ← operand depth
              if isTarget target then return .increment true step target else refuse
          | none => refuse

def depthLimit : Nat := 1000

def extended (setting : Setting) : Parse Expr := do
  let first ← rules.operand depthLimit
  let next ← peek
  let value ← if isTarget first then
      match assignment? next, step? next with
      | some operator, _ => do
          drop
          pure (Expr.assign operator first (← rules.expression setting))
      | none, some step => do
          drop
          pure (Expr.increment false step first)
      | none, none => pure first
    else pure first
  Kernel.rounds id (fun value => do
    if isSign (← peek) "|" && isWord (← peekSecond) "getline" then
      drop
      drop
      let target ← match ← peek with
        | .name _ => rules.target?
        | .sign "$" => some <$> rules.operand depthLimit
        | _ => pure none
      return .again (.getlineCommand value target)
    else return .finished value) Kernel.endless value

def power (setting : Setting) : Nat → Parse Expr
  | 0 => refuse
  | depth + 1 => do
      if ← takes "-" then return .negative (← power setting depth)
      else if ← takes "+" then return .positive (← power setting depth)
      else if ← takes "!" then return .not (← power setting depth)
      else
        let left ← rules.extended setting
        if ← takes "^" then return .arithmetic .power left (← power setting depth)
        return left

def leftward (endsLines : Bool) (operand : Parse Expr)
    (operator? : Token → Option (Expr → Expr → Expr)) : Parse Expr := do
  let first ← operand
  Kernel.rounds id (fun left => do
    match operator? (← peek) with
    | some combine =>
        drop
        if endsLines then skipNewlines
        return .again (combine left (← operand))
    | none => return .finished left) Kernel.endless first

def product (setting : Setting) : Parse Expr :=
  leftward false (rules.power setting depthLimit) fun token =>
    match token with
    | .sign "*" => some (.arithmetic .multiply)
    | .sign "/" => some (.arithmetic .divide)
    | .sign "%" => some (.arithmetic .modulo)
    | _ => none

def sum (setting : Setting) : Parse Expr :=
  leftward false (rules.product setting) fun token =>
    match token with
    | .sign "+" => some (.arithmetic .add)
    | .sign "-" => some (.arithmetic .subtract)
    | _ => none

def startsJoined : Token → Bool
  | .number _ | .text _ | .regex _ | .name _ | .callee _ => true
  | .word word => builtins.contains word
  | .sign sign => ["$", "!", "(", "-", "+", "++", "--"].contains sign
  | _ => false

def joined (setting : Setting) : Parse Expr := do
  let first ← rules.sum setting
  Kernel.rounds id (fun left => do
    if startsJoined (← peek) then return .again (.concat left (← rules.sum setting))
    else return .finished left) Kernel.endless first

def comparison (setting : Setting) : Parse Expr := do
  let left ← rules.joined setting
  let operator? : Option Comparison := match ← peek with
    | .sign "<" => some .less
    | .sign "<=" => some .lessOrEqual
    | .sign "==" => some .equal
    | .sign "!=" => some .unequal
    | .sign ">" => if setting.beforeArrow then none else some .greater
    | .sign ">=" => some .greaterOrEqual
    | _ => none
  match operator? with
  | some operator =>
      drop
      return .compare operator left (← rules.joined setting)
  | none => return left

def fitting (setting : Setting) : Parse Expr :=
  leftward false (rules.comparison setting) fun token =>
    match token with
    | .sign "~" => some (.fits false)
    | .sign "!~" => some (.fits true)
    | _ => none

def membership (setting : Setting) : Parse Expr := do
  let first ← rules.fitting setting
  Kernel.rounds id (fun left => do
    if setting.beforeIn || !isWord (← peek) "in" then return .finished left
    drop
    match ← peek with
    | .name name =>
        drop
        return .again (.isIn [left] name)
    | _ => refuse) Kernel.endless first

def conjunction (setting : Setting) : Parse Expr :=
  leftward true (rules.membership setting) fun token =>
    match token with
    | .sign "&&" => some .both
    | _ => none

def disjunction (setting : Setting) : Parse Expr :=
  leftward true (rules.conjunction setting) fun token =>
    match token with
    | .sign "||" => some .either
    | _ => none

def ternary (setting : Setting) : Parse Expr := do
  let test ← rules.disjunction setting
  if ← takes "?" then
    let yes ← rules.expression setting
    demand ":"
    let no ← rules.expression setting
    return .conditional test yes no
  return test

def endStatement : Parse Unit := do
  match ← peek with
  | .newline => drop
  | .sign ";" =>
      drop
      skipNewlines
  | .sign "\x7d" => return ()
  | .ending => return ()
  | .sign ")" => fail "extra ')'"
  | _ => refuse

def output (make : List Expr → Target → Statement) : Parse Statement := do
  let setting : Setting := { beforeArrow := true }
  let isEnd (token : Token) : Bool := match token with
    | .newline | .ending => true
    | .sign sign => [";", "\x7d", ">", ">>", "|"].contains sign
    | _ => false
  let items ← if isEnd (← peek) then pure []
    else do
      let first ← rules.expression setting
      Kernel.rounds (fun found => found.reverse) (fun found => do
        if ← takes "," then
          skipNewlines
          return .again ((← rules.expression setting) :: found)
        else return .finished found.reverse) Kernel.endless [first]
  let items := match items with
    | [.tuple items] => items
    | [.group item] => [item]
    | items => items
  let target ← do
    if ← takes ">" then pure (.file (← rules.expression setting))
    else if ← takes ">>" then pure (.append (← rules.expression setting))
    else if ← takes "|" then pure (.command (← rules.expression setting))
    else pure .standard
  return make items target

def simple : Parse Statement := do
  if ← takesWord "print" then rules.output .print
  else if ← takesWord "printf" then
    let statement ← rules.output .printf
    match statement with
    | .printf [] _ => fail "no arguments in call to printf"
    | statement => return statement
  else if ← takesWord "delete" then
    match ← peek with
    | .name name =>
        drop
        if ← takes "[" then return .delete name (← rules.expressions "]")
        return .delete name []
    | _ => refuse
  else return .expression (← rules.expression {})

def body : Parse Statement := do
  skipNewlines
  rules.statement

def looping (parse : Parse Statement) : Parse Statement := do
  let before := (← get).inLoop
  modify fun parser => { parser with inLoop := true }
  let statement ← parse
  modify fun parser => { parser with inLoop := before }
  return statement

def block : Parse Statement := do
  demand "\x7b"
  modify fun parser => { parser with braces := parser.braces + 1 }
  Kernel.rounds (fun found => .block found.reverse) (fun found => do
    skipNewlines
    if isSign (← peek) "\x7d" then
      drop
      modify fun parser => { parser with braces := parser.braces - 1 }
      return .finished (.block found.reverse)
    else if ← takes ";" then return .again found
    else return .again ((← rules.statement) :: found)) Kernel.endless []

def choice : Parse Statement := do
  demand "("
  let test ← rules.expression {}
  demand ")"
  let yes ← rules.body
  let before := (← get).rest
  skipNewlines
  if isSign (← peek) ";" && isWord (← peekSecond) "else" then drop
  skipNewlines
  if ← takesWord "else" then
    return .choice test yes (some (← rules.body))
  modify fun parser => { parser with rest := before }
  return .choice test yes none

def forStatement : Parse Statement := do
  demand "("
  match (← get).rest with
  | (.name name, _) :: (.word "in", _) :: (.name array, _) :: (.sign ")", _) :: rest =>
      modify fun parser => { parser with rest }
      return .forEach name array (← looping rules.body)
  | _ =>
      let start ← if ← takes ";" then pure none
        else do
          let start ← rules.simple
          demand ";"
          pure (some start)
      skipNewlines
      let test ← if ← takes ";" then pure none
        else do
          let test ← rules.expression {}
          demand ";"
          pure (some test)
      skipNewlines
      let step ← if ← takes ")" then pure none
        else do
          let step ← rules.simple
          demand ")"
          pure (some step)
      return .forLoop start test step (← looping rules.body)

def doStatement : Parse Statement := do
  let inner ← looping rules.body
  skipNewlines
  let _ ← takes ";"
  skipNewlines
  if !(← takesWord "while") then refuse
  demand "("
  let test ← rules.expression {}
  demand ")"
  endStatement
  return .doLoop inner test

def optionalValue : Parse (Option Expr) := do
  match ← peek with
  | .newline | .ending | .sign ";" | .sign "\x7d" => return none
  | _ => return some (← rules.expression {})

def parseStatement : Parse Statement := do
  let parser ← get
  match ← peek with
  | .sign "\x7b" => rules.block
  | .sign ";" =>
      drop
      return .empty
  | .word "if" =>
      drop
      rules.choice
  | .word "while" =>
      drop
      demand "("
      let test ← rules.expression {}
      demand ")"
      if ← takes ";" then return .whileLoop test .empty
      return .whileLoop test (← looping rules.body)
  | .word "for" =>
      drop
      rules.forStatement
  | .word "do" =>
      drop
      rules.doStatement
  | .word "break" =>
      if !parser.inLoop then fail "break statement outside of loop"
      drop
      endStatement
      return .breakLoop
  | .word "continue" =>
      if !parser.inLoop then fail "continue statement outside of loop"
      drop
      endStatement
      return .continueLoop
  | .word "next" =>
      if parser.inEnds then fail "improper use of next"
      drop
      endStatement
      return .next
  | .word "nextfile" =>
      if parser.inEnds then fail "improper use of nextfile"
      drop
      endStatement
      return .nextFile
  | .word "exit" =>
      drop
      let value ← rules.optionalValue
      endStatement
      return .exit value
  | .word "return" =>
      if !parser.inFunction then fail "return outside function body"
      drop
      let value ← rules.optionalValue
      endStatement
      return .giveBack value
  | _ =>
      let statement ← rules.simple
      endStatement
      return statement

end Rules

open Parse

def rulesFor : Nat → Rules
  | 0 => { expression := fun _ => refuse, statement := refuse }
  | depth + 1 => {
      expression := fun setting parser => (rulesFor depth).ternary setting parser
      statement := fun parser => (rulesFor depth).parseStatement parser }

def rules : Rules := rulesFor 2000

def parameters : Parse (List String) := do
  demand "("
  Kernel.rounds (fun found => found.reverse) (fun found => do
    skipNewlines
    if ← takes ")" then return .finished found.reverse
    if !found.isEmpty then demand ","
    skipNewlines
    match ← peek with
    | .name name =>
        drop
        return .again (name :: found)
    | _ => refuse) Kernel.endless []

def functionDefinition : Parse Function := do
  let name ← match ← peek with
    | .name name | .callee name => do
        drop
        pure name
    | _ => refuse
  let parameters ← parameters
  skipNewlines
  modify fun parser => { parser with inFunction := true, inLoop := false, inEnds := false }
  let body ← rules.block
  modify fun parser => { parser with inFunction := false }
  return { name, parameters, body }

def bodyAt (inEnds : Bool) : Parse Statement := do
  modify fun parser => { parser with inEnds, inLoop := false }
  rules.block

def rule : Parse Rule := do
  if ← takesWord "BEGIN" then return { condition := .start, body := some (← bodyAt true) }
  if ← takesWord "END" then return { condition := .finish, body := some (← bodyAt true) }
  let condition ← if isSign (← peek) "\x7b" then pure .always
    else do
      let test ← rules.expression {}
      if ← takes "," then
        skipNewlines
        pure (.range test (← rules.expression {}))
      else pure (.holds test)
  if isSign (← peek) "\x7b" then return { condition, body := some (← bodyAt false) }
  return { condition, body := none }

def program : Parse Program :=
  Kernel.rounds (fun (program : Program) => program) (fun (program : Program) => do
    skipNewlines
    match ← peek with
    | .ending => return .finished program
    | .sign ";" =>
        drop
        return .again program
    | .word "function" | .word "func" =>
        drop
        let function ← functionDefinition
        return .again { program with functions := program.functions ++ [function] }
    | _ =>
        let rule ← rule
        return .again { program with rules := program.rules ++ [rule] }) Kernel.endless {}

def functionNames : List (Token × Nat) → List String
  | (.word "function", _) :: (.name name, _) :: rest
  | (.word "func", _) :: (.name name, _) :: rest
  | (.word "function", _) :: (.callee name, _) :: rest
  | (.word "func", _) :: (.callee name, _) :: rest => name :: functionNames rest
  | _ :: rest => functionNames rest
  | [] => []

def callFault? (program : Program) (last : Nat) : List (String × Nat × Nat) → Option Fault
  | [] => none
  | (name, count, line) :: rest =>
      match program.functions.find? (·.name == name) with
      | none => some { line := last, message := "function " ++ name ++ " never defined" }
      | some function =>
          if function.parameters.length < count then
            some { line, message := "too many arguments in call to " ++ name }
          else callFault? program last rest

def readProgram (text : List Char) : Except Fault Program := do
  let tokens ← tokens (2 * text.length + 2) .newline 1 text
  let (program, parser) ← program.run { rest := tokens, functions := functionNames tokens }
  match callFault? program (text.count '\n' + 2) parser.calls with
  | some fault => throw fault
  | none => return program

end Acceptance.Awk
