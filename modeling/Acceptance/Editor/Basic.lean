import Acceptance.Regex.Reader

namespace Acceptance.Editor

-- Scripts of a line editor: a list of steps, each with the lines it applies to.

structure Pattern where
  regex : Regex
  groups : Nat
  caseless : Bool := false
  multiline : Bool := false

inductive Address where
  | line (number : Nat)
  | every (first step : Nat)
  | last
  | pattern (pattern : Option Pattern)

inductive Finish where
  | address (address : Address)
  | after (count : Nat)
  | multiple (factor : Nat)

structure Selector where
  start : Option Address := none
  finish : Option Finish := none
  negated : Bool := false

inductive Casing where
  | upper
  | lower
  | asGiven
  | nextUpper
  | nextLower
  deriving DecidableEq

inductive Piece where
  | char (c : Char)
  | group (number : Nat)
  | casing (casing : Casing)

structure Substitution where
  pattern : Option Pattern
  replacement : List Piece
  number : Nat := 1
  all : Bool := false
  prints : Bool := false
  file : Option String := none

inductive Condition where
  | always
  | replaced
  | unreplaced
  deriving DecidableEq

inductive Action where
  -- Goes on behind a block if the step does not apply.
  | enter (finish : Nat)
  | nothing
  | label (name : String)
  | jump (condition : Condition) (label : String)
  | substitute (substitution : Substitution)
  | exchangeLetters (letters : List (Char × Char))
  | append (text : List Char)
  | insert (text : List Char)
  | change (text : List Char)
  | readFile (path : String)
  | readLine (path : String)
  | writeSpace (path : String)
  | writeLine (path : String)
  | quit (status : Nat) (prints : Bool)
  | list (width : Option Nat)
  | delete
  | deleteLine
  | next
  | nextAppended
  | print
  | printLine
  | recall
  | recallAppended
  | keep
  | keepAppended
  | exchange
  | number
  | name
  | clear

structure Step where
  selector : Selector
  action : Action

-- A script, and whether it asks for no output but its own.
structure Script where
  steps : Array Step := #[]
  quiet : Bool := false

namespace Script

def target? (script : Script) (label : String) : Option Nat :=
  if label.isEmpty then some script.steps.size
  else script.steps.findIdx? fun step =>
    match step.action with
    | .label name => name == label
    | _ => false

-- A label that is jumped to and does not exist.
def missingLabel? (script : Script) : Option String :=
  script.steps.findSome? fun step =>
    match step.action with
    | .jump _ label => if (script.target? label).isNone then some label else none
    | _ => none

def outputs (script : Script) : List String :=
  script.steps.toList.filterMap fun step =>
    match step.action with
    | .writeSpace path | .writeLine path => some path
    | .substitute substitution => substitution.file
    | _ => none

end Script
end Acceptance.Editor
