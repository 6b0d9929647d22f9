import Acceptance.Shell.Reader

namespace Acceptance.Shell

open Kernel (Turn rounds endless)
open Parse

inductive Extent where
  | line
  -- Before a keyword or operator that cannot start a command; there is at least one command.
  | block
  | rest
  deriving DecidableEq

structure Rules where
  list : Extent → Parse (Option Command)
  command : Parse Command

namespace Rules

variable (rules : Rules)

def unexpected {α : Type} (wanted : Option String) : Parse α := do
  let found := (← get).token.display
  match wanted with
  | some wanted => refuse (found ++ " unexpected (expecting " ++ wanted ++ ")")
  | none => refuse (found ++ " unexpected")

def closeWith (script : Parse (Option Command)) : Parse Unit := do
  let token ← readToken script (pure ()) {}
  if token.isSign ")" then pure () else unexpected (some "\")\"")

def take (check : Check) : Parse Token :=
  readToken (rules.list .rest) (closeWith (rules.list .rest)) check

def documents : Parse Unit := readDocuments (rules.list .rest) (closeWith (rules.list .rest))

def again : Parse Unit := modify fun reader => { reader with pushed := true }

def demand (text : String) (check : Check) : Parse Unit := do
  let token ← rules.take check
  if token.isSign text then pure () else unexpected (some ("\"" ++ text ++ "\""))

def redirect (descriptor : Nat) (arrow : Arrow) : Parse Redirect := do
  let isDocument := match arrow with
    | .document _ => true
    | _ => false
  match ← rules.take { delimiter := isDocument } with
  | .word parts quoted =>
      match arrow with
      | .file access => return .file descriptor access parts
      | .copy => return .copy descriptor parts
      | .document strip =>
          let reader ← get
          let pending : Pending :=
            { number := reader.fresh, delimiter := (Word.text parts).toList, strip
              literal := quoted }
          set { reader with
            fresh := reader.fresh + 1, pending := reader.pending ++ [pending] }
          return .document descriptor pending.number
  | _ => unexpected none

-- The redirections behind a command that is not simple.
def redirects : Parse (List Redirect) :=
  rounds List.reverse (fun (found : List Redirect) => do
    match ← rules.take .command with
    | .redirect descriptor arrow => return .again ((← rules.redirect descriptor arrow) :: found)
    | _ =>
        again
        return .finished found.reverse) endless []

def specialBuiltins : List String :=
  [".", ":", "break", "continue", "eval", "exec", "exit", "export", "local", "readonly", "return",
    "set", "shift", "times", "trap", "unset"]

structure Items where
  assignments : List Word := []
  words : List Word := []
  redirects : List Redirect := []

def function (name : Word) : Parse Command := do
  demand rules ")" {}
  match Word.plain? name with
  | some text =>
      if !isName text || specialBuiltins.contains text then refuse "Bad function name"
      else
        let line := (← get).line
        let _ ← rules.take .laterCommand
        again
        return .define line text (← rules.command)
  | none => refuse "Bad function name"

def simple : Parse Command := do
  let line := (← get).line
  rounds (fun _ => .simple line [] [] []) (fun (items : Items) => do
    match ← rules.take { aliases := items.words.isEmpty } with
    | .word parts _ =>
        if items.words.isEmpty && Word.isAssignment parts then
          return .again { items with assignments := parts :: items.assignments }
        else return .again { items with words := parts :: items.words }
    | .redirect descriptor arrow =>
        let redirect ← rules.redirect descriptor arrow
        return .again { items with redirects := redirect :: items.redirects }
    | token =>
        match items.words, items.assignments, items.redirects, token.isSign "(" with
        | [name], [], [], true => return .finished (← rules.function name)
        | _, _, _, _ =>
            again
            return .finished (.simple line items.assignments.reverse items.words.reverse
              items.redirects.reverse)) endless {}

def choiceFrom : Nat → Parse Command
  | 0 => unexpected none
  | fuel + 1 => do
      let test ← rules.list .block
      rules.demand "then" {}
      let body ← rules.list .block
      let token ← rules.take {}
      if token.isSign "elif" then return .choice test body (some (← choiceFrom fuel))
      else if token.isSign "else" then return .choice test body (← rules.list .block)
      else
        again
        return .choice test body none

def wordList : Parse (List Word) :=
  rounds List.reverse (fun (words : List Word) => do
    match ← rules.take {} with
    | .word parts _ => return .again (parts :: words)
    | token =>
        if token.isNewline || token.isSign ";" then return .finished words.reverse
        else unexpected none) endless []

def each (line : Nat) : Parse Command := do
  match ← rules.take {} with
  | .word parts false =>
      match Word.plain? parts with
      | some name =>
          if !isName name then refuse "Bad for loop variable"
          let token ← rules.take .laterCommand
          let words ← if token.isSign "in" then rules.wordList
            else do
              if !token.isSign ";" then again
              pure [[.mark, .parameter "@" .plain [], .mark]]
          rules.demand "do" .laterCommand
          return .each line name words (← rules.list .block)
      | none => refuse "Bad for loop variable"
  | _ => refuse "Bad for loop variable"

def partsOf : Token → Word
  | .word parts _ => parts
  | .sign text => text.toList.map .plain
  | _ => []

def patterns (first : Token) : Parse (List Word) :=
  rounds (fun (words, _) => words.reverse) (fun (words, token) => do
    let words := partsOf token :: words
    let token ← rules.take {}
    if token.isSign "|" then return .again (words, ← rules.take {})
    else if token.isSign ")" then return .finished words.reverse
    else unexpected (some "\")\"")) endless (([] : List Word), first)

def select (line : Nat) : Parse Command := do
  match ← rules.take {} with
  | .word subject _ =>
      rules.demand "in" .laterCommand
      let check : Check := { newlines := true, keywords := true }
      rounds (fun cases => .select line subject cases.reverse)
        (fun (cases : List (List Word × Option Command)) => do
          let token ← rules.take check
          if token.isSign "esac" then return .finished (.select line subject cases.reverse)
          else
            let first ← if token.isSign "(" then rules.take {} else pure token
            let patterns ← rules.patterns first
            let body ← rules.list .rest
            let cases := (patterns, body) :: cases
            let token ← rules.take check
            if token.isSign ";;" then return .again cases
            else if token.isSign "esac" then return .finished (.select line subject cases.reverse)
            else unexpected (some "\";;\"")) endless []
  | _ => unexpected (some "word")

def withRedirects (line : Nat) (body : Command) (redirects : List Redirect) : Command :=
  if redirects.isEmpty then body
  else
    match body with
    | .subshell line body _ => .subshell line body redirects
    | body => .redirected line body redirects

def readCommand : Parse Command := do
  let line := (← get).line
  let token ← rules.take {}
  let finish (body : Command) : Parse Command := do
    return withRedirects line body (← rules.redirects)
  match token with
  | .word _ _ | .redirect _ _ =>
      again
      rules.simple
  | .sign text =>
      if text = "if" then
        let body ← rules.choiceFrom (← get).rest.length
        rules.demand "fi" {}
        finish body
      else if text = "while" || text = "until" then
        let test ← rules.list .block
        rules.demand "do" {}
        let body ← rules.list .block
        rules.demand "done" {}
        finish (.loop (text == "while") test body)
      else if text = "for" then
        let body ← rules.each line
        rules.demand "done" {}
        finish body
      else if text = "case" then finish (← rules.select line)
      else if text = "(" then
        let body ← rules.list .block
        rules.demand ")" {}
        finish (.subshell line body [])
      else if text = "\x7b" then
        let body ← rules.list .block
        rules.demand "\x7d" {}
        match body with
        | some body => finish body
        | none => unexpected none
      else unexpected none
  | _ => unexpected none

def pipeline : Parse Command := do
  let token ← rules.take {}
  let negated := token.isSign "!"
  if negated then
    let _ ← rules.take .command
  again
  let first ← rules.readCommand
  let token ← rules.take {}
  let body ← if token.isSign "|" then
      rounds (fun commands => .pipeline commands.reverse false) (fun commands => do
        let line := (← get).line
        let _ ← rules.take .laterCommand
        again
        let command ← rules.readCommand
        let commands := relined line command :: commands
        let token ← rules.take {}
        if token.isSign "|" then return .again commands
        else return .finished (.pipeline commands.reverse false)) endless [first]
    else pure first
  again
  return if negated then .negated body else body
where
  -- A compound command behind a bar counts from the line of the bar.
  relined (line : Nat) : Command → Command
    | .redirected _ body redirects => .redirected line body redirects
    | .subshell _ body redirects => .subshell line body redirects
    | .each _ name words body => .each line name words body
    | .select _ subject cases => .select line subject cases
    | command => command

def andOr : Parse Command := do
  let first ← rules.pipeline
  rounds id (fun left => do
    let token ← rules.take {}
    if token.isSign "&&" || token.isSign "||" then
      let _ ← rules.take .laterCommand
      again
      let right ← rules.pipeline
      return .again (if token.isSign "&&" then .both left right else .either left right)
    else
      again
      return .finished left) endless first

def inBackground : Command → Command
  | .pipeline commands _ => .pipeline commands true
  | .redirected line body redirects => .background line body redirects
  | body => .background 0 body []

def endsList (token : Token) : Bool :=
  [")", ";;", "do", "done", "elif", "else", "esac", "fi", "then", "\x7d"].any token.isSign

def joinedTo (before : Option Command) (command : Command) : Command :=
  match before with
  | some before => .sequence before command
  | none => command

def readList (extent : Extent) : Parse (Option Command) := do
  let check := if extent = .line then Check.command else .laterCommand
  let finish (found : Option Command) : Parse (Turn (Option Command × Bool) (Option Command)) := do
    rules.documents
    modify fun reader => { reader with token := .finish, pushed := true }
    return .finished found
  rounds (·.1) (fun (found, checked) => do
    let token ← rules.take check
    match token with
    | .newline =>
        rules.documents
        return .finished found
    | .finish => finish found
    | _ =>
        again
        if checked && endsList token then return .finished found
        let command ← rules.andOr
        let token ← rules.take {}
        let command := if token.isSign "&" then inBackground command else command
        let found := some (joinedTo found command)
        let checked := extent != .line
        match token with
        | .finish => finish found
        | .newline =>
            again
            return .again (found, checked)
        | token =>
            if token.isSign "&" || token.isSign ";" then return .again (found, checked)
            else if extent = .line then unexpected none
            else
              again
              return .finished found) endless (none, extent == .rest)

end Rules

def rulesFor : Nat → Rules
  | 0 => { list := fun _ => refuse "Nesting too deep", command := refuse "Nesting too deep" }
  | depth + 1 => {
      list := fun extent reader => (rulesFor depth).readList extent reader
      command := fun reader => (rulesFor depth).readCommand reader }

def nestingLimit : Nat := 10000

inductive Reading where
  | finished
  | read (command : Option Command) (last : Bool)

def readNext (reader : Reader) : Except Fault (Reading × Reader) := do
  let (command, after) ←
    (Rules.readList (rulesFor nestingLimit) .line).run { reader with pushed := false }
  let ended := after.pushed && after.token.isFinish
  if ended && command.isNone then return (.finished, after)
  return (.read command ended, after)

end Acceptance.Shell
