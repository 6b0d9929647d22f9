
namespace Acceptance.Command

inductive Mode where
  | between
  | comment
  | word
  | escape
  | single
  | double
  | doubleEscape
  deriving DecidableEq, Repr

-- The words read so far, the word being read, and where the reader stands. The words and the
-- characters of the word are held backwards.
structure Scan where
  mode : Mode := .between
  word : List Char := []
  words : List (List Char) := []

def isSeparator (c : Char) : Bool := c == ' ' || c == '\t' || c == '\n'

namespace Scan

def enter (scan : Scan) (mode : Mode) : Scan := { scan with mode := mode }

def push (scan : Scan) (mode : Mode) (text : List Char) : Scan :=
  { scan with mode := mode, word := text.reverseAux scan.word }

def endWord (scan : Scan) : Scan :=
  { mode := .between, word := [], words := scan.word.reverse :: scan.words }

def plain (scan : Scan) (c : Char) : Scan :=
  if isSeparator c then scan.endWord
  else if c = '"' then scan.enter .double
  else if c = '\'' then scan.enter .single
  else if c = '\\' then scan.enter .escape
  else scan.push .word [c]

def step (scan : Scan) (c : Char) : Scan :=
  match scan.mode with
  | .between =>
      if isSeparator c then scan
      else if c = '#' then scan.enter .comment
      else scan.plain c
  | .comment => if c = '\n' then scan.enter .between else scan
  | .word => scan.plain c
  | .escape => if c = '\n' then scan.enter .word else scan.push .word [c]
  | .single => if c = '\'' then scan.enter .word else scan.push .single [c]
  | .double =>
      if c = '"' then scan.enter .word
      else if c = '\\' then scan.enter .doubleEscape
      else scan.push .double [c]
  | .doubleEscape =>
      if c = '\n' then scan.enter .double
      else if c = '$' || c = '`' || c = '"' || c = '\\' then scan.push .double [c]
      else scan.push .double ['\\', c]

def finish? (scan : Scan) : Option (List (List Char)) :=
  match scan.mode with
  | .between | .comment => some scan.words.reverse
  | .word => some (scan.word.reverse :: scan.words).reverse
  | .escape | .single | .double | .doubleEscape => none

end Scan

def split? (line : List Char) : Option (List (List Char)) :=
  (line.foldl Scan.step {}).finish?

end Acceptance.Command
