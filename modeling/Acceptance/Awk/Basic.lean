import Acceptance.Regex.Reader

namespace Acceptance.Awk

-- Programs on records: rules that pair a condition with statements, and functions.

inductive Arithmetic where
  | add
  | subtract
  | multiply
  | divide
  | modulo
  | power
  deriving DecidableEq

inductive Comparison where
  | less
  | lessOrEqual
  | equal
  | unequal
  | greater
  | greaterOrEqual
  deriving DecidableEq

inductive Expr where
  | number (value : Float)
  | text (value : String)
  | regex (regex : Regex)
  | variable (name : String)
  | element (array : String) (subscripts : List Expr)
  | field (index : Expr)
  | group (inner : Expr)
  | tuple (items : List Expr)
  | assign (operator : Option Arithmetic) (target value : Expr)
  | increment (before : Bool) (step : Arithmetic) (target : Expr)
  | arithmetic (operator : Arithmetic) (left right : Expr)
  | negative (operand : Expr)
  | positive (operand : Expr)
  | not (operand : Expr)
  | both (left right : Expr)
  | either (left right : Expr)
  | conditional (test yes no : Expr)
  | compare (operator : Comparison) (left right : Expr)
  | fits (negated : Bool) (operand pattern : Expr)
  | isIn (subscripts : List Expr) (array : String)
  | concat (left right : Expr)
  | call (function : String) (arguments : List Expr)
  | builtin (name : String) (arguments : List Expr)
  | getline (target : Option Expr)
  | getlineFile (target : Option Expr) (file : Expr)
  | getlineCommand (command : Expr) (target : Option Expr)

inductive Target where
  | standard
  | file (name : Expr)
  | append (name : Expr)
  | command (name : Expr)

inductive Statement where
  | expression (value : Expr)
  | print (items : List Expr) (target : Target)
  | printf (items : List Expr) (target : Target)
  | block (statements : List Statement)
  | choice (test : Expr) (yes : Statement) (no : Option Statement)
  | whileLoop (test : Expr) (body : Statement)
  | doLoop (body : Statement) (test : Expr)
  | forLoop (start : Option Statement) (test : Option Expr) (step : Option Statement)
      (body : Statement)
  | forEach (name array : String) (body : Statement)
  | delete (array : String) (subscripts : List Expr)
  | breakLoop
  | continueLoop
  | next
  | nextFile
  | exit (status : Option Expr)
  | giveBack (value : Option Expr)
  | empty

inductive Condition where
  | start
  | finish
  | always
  | holds (test : Expr)
  | range (first last : Expr)

structure Rule where
  condition : Condition
  body : Option Statement

structure Function where
  name : String
  parameters : List String
  body : Statement

structure Program where
  rules : List Rule := []
  functions : List Function := []

end Acceptance.Awk
