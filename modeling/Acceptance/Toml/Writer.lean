
namespace Acceptance.Toml

def isControl (c : Char) : Bool := c.toNat < 0x20 || c.toNat == 0x7F

def isForbidden (allowed : List Char) (c : Char) : Bool :=
  isControl c && c != '\t' && !allowed.contains c

-- The longest run of `mark` in the text, given the length of the run that ends before it.
def longestRun (mark : Char) : Nat → List Char → Nat
  | current, [] => current
  | current, c :: rest =>
      if c == mark then longestRun mark (current + 1) rest
      else max current (longestRun mark 0 rest)

inductive StringForm where
  | basic
  | literal
  | basicLines
  | literalLines
  deriving DecidableEq, Repr

namespace StringForm

-- Whether the form holds the text as it is. A tab may have to be escaped nevertheless.
def holds (text : List Char) : StringForm → Bool
  | .basic => !text.any fun c => c == '"' || c == '\\' || isForbidden [] c
  | .literal => !text.any fun c => c == '\'' || isForbidden [] c
  | .basicLines =>
      !text.any (fun c => c == '\\' || isForbidden ['\n'] c) && longestRun '"' 0 text < 3
  | .literalLines => !text.any (isForbidden ['\n']) && longestRun '\'' 0 text < 3

def ofText (text : List Char) : StringForm :=
  let forms := [StringForm.basic, .literal, .basicLines, .literalLines]
  match forms.find? (holds text) with
  | some form => form
  | none => if text.contains '\n' then .basicLines else .basic

end StringForm

def upperHex (value : Nat) : Char := (Nat.digitChar value).toUpper

def escapeBasic (c : Char) : List Char :=
  if c == '\\' then ['\\', '\\']
  else if c == '\x08' then ['\\', 'b']
  else if c == '\t' then ['\\', 't']
  else if c == '\x0c' then ['\\', 'f']
  else if c == '\r' then ['\\', 'r']
  else if c == '\n' then ['\\', 'n']
  else if isControl c then
    ['\\', 'u', '0', '0', upperHex (c.toNat / 16), upperHex (c.toNat % 16)]
  else [c]

def basicBody (text : List Char) : List Char :=
  text.flatMap fun c => if c == '"' then ['\\', '"'] else escapeBasic c

-- The content between three quotation marks. Two marks in a row may stand; the third is escaped
-- and the count begins again.
def linesBody : Nat → List Char → List Char
  | _, [] => []
  | run, c :: rest =>
      if c == '"' then
        if run = 2 then '\\' :: '"' :: linesBody 0 rest else '"' :: linesBody (run + 1) rest
      else if c == '\n' then '\n' :: linesBody 0 rest
      else escapeBasic c ++ linesBody 0 rest

def openingLine (text : List Char) : List Char := if text.contains '\n' then ['\n'] else []

def writeString (text : List Char) : List Char :=
  match StringForm.ofText text with
  | .basic => '"' :: (basicBody text ++ ['"'])
  | .literal => '\'' :: (text ++ ['\''])
  | .basicLines =>
      ['"', '"', '"'] ++ openingLine text ++ linesBody 0 text ++ ['"', '"', '"']
  | .literalLines =>
      ['\'', '\'', '\''] ++ openingLine text ++ text ++ ['\'', '\'', '\'']

end Acceptance.Toml
