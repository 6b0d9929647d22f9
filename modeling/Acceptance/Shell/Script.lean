
namespace Acceptance.Shell

-- What is made of a parameter. With `orEmpty` an empty value counts as none.
inductive Form where
  | plain
  | length
  | fallback (orEmpty : Bool)
  | substitute (orEmpty : Bool)
  | demand (orEmpty : Bool)
  | assign (orEmpty : Bool)
  | trim (atEnd longest : Bool)
  | bad
  deriving DecidableEq

inductive Access where
  | input
  | output
  | force
  | append
  | both
  deriving DecidableEq

mutual

inductive Part where
  | plain (c : Char)
  | quoted (c : Char)
  -- A quotation mark: what is between two of them is quoted, even if it is empty.
  | mark
  | parameter (name : String) (form : Form) (word : List Part)
  | command (body : Option Command)
  | arithmetic (text : List Part)

inductive Redirect where
  | file (descriptor : Nat) (access : Access) (name : List Part)
  | copy (descriptor : Nat) (source : List Part)
  | document (descriptor number : Nat)

inductive Command where
  | simple (line : Nat) (assignments words : List (List Part)) (redirects : List Redirect)
  | pipeline (commands : List Command) (background : Bool)
  | redirected (line : Nat) (body : Command) (redirects : List Redirect)
  | subshell (line : Nat) (body : Option Command) (redirects : List Redirect)
  | background (line : Nat) (body : Command) (redirects : List Redirect)
  | sequence (first second : Command)
  | both (first second : Command)
  | either (first second : Command)
  | negated (body : Command)
  | choice (test body : Option Command) (otherwise : Option Command)
  | loop (wanted : Bool) (test body : Option Command)
  | each (line : Nat) (name : String) (words : List (List Part)) (body : Option Command)
  | select (line : Nat) (subject : List Part) (cases : List (List (List Part) × Option Command))
  | define (line : Nat) (name : String) (body : Command)

end

abbrev Word := List Part

def isNameStart (c : Char) : Bool := c.isAlpha || c == '_'

def isNamePart (c : Char) : Bool := c.isAlphanum || c == '_'

def isName (text : String) : Bool :=
  match text.toList with
  | [] => false
  | c :: rest => isNameStart c && rest.all isNamePart

def isSpecial (c : Char) : Bool := "!#$*-?@".toList.contains c || c.isDigit

namespace Word

def text (word : Word) : String :=
  String.ofList (word.filterMap fun part =>
    match part with
    | .plain c | .quoted c => some c
    | _ => none)

def plainStart : Word → List Char
  | .plain c :: rest => c :: plainStart rest
  | _ => []

def plain? (word : Word) : Option String :=
  let start := plainStart word
  if start.length = word.length then some (String.ofList start) else none

def isAssignment (word : Word) : Bool :=
  let start := plainStart word
  let name := start.takeWhile isNamePart
  isName (String.ofList name) && (start.drop name.length).head? == some '='

end Word
end Acceptance.Shell
