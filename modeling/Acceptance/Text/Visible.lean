import Acceptance.Text.Utf8

namespace Acceptance.Text

-- What is left of a text without the sequences that control a terminal and without control
-- characters.

inductive Sequence where
  | none
  | escape
  | short
  | parameters
  | command
  | header
  | string
  deriving DecidableEq, Repr

def escapeCharacter : Char := '\x1b'

def isCancel (c : Char) : Bool := c == '\x18' || c == '\x1a'

def isBetween (low high : Char) (c : Char) : Bool := low ≤ c && c ≤ high

def endsString (c : Char) : Bool := (utf8 (String.singleton c)).contains 0x9c

def Sequence.ofSecond (c : Char) : Sequence :=
  if isBetween ' ' '/' c then .short
  else if c == '[' then .parameters
  else if c == ']' then .command
  else if c == 'P' then .header
  else if c == 'X' || c == '^' || c == '_' then .string
  else if isBetween '0' '~' c then .none
  else .escape

def Sequence.next (sequence : Sequence) (c : Char) : Sequence :=
  if c == escapeCharacter then .escape
  else if isCancel c then .none
  else
    match sequence with
    | .none => .none
    | .escape => .ofSecond c
    | .short => if isBetween '0' '~' c then .none else .short
    | .parameters => if isBetween '@' '~' c then .none else .parameters
    | .command => if c == '\x07' then .none else .command
    | .header => if isBetween '@' '~' c then .string else .header
    | .string => if endsString c then .none else .string

def isLayout (c : Char) : Bool := c == '\t' || c == '\n' || c == '\x0c' || c == '\r'

def isVisible (c : Char) : Bool := isLayout c || (' ' ≤ c && c != '\x7f')

-- Whether a character stays, if the one before it did not.
def Sequence.shows (sequence : Sequence) (c : Char) : Bool :=
  match sequence with
  | .none => isVisible c
  | .escape | .short | .parameters => isLayout c
  | .command | .header | .string => false

-- The characters that stay. `running` says whether the one before did; then it does not matter
-- in which sequence the text was left, until one that does not stay.
def visibleFrom : Sequence → Bool → List Char → List Char
  | _, _, [] => []
  | sequence, running, c :: rest =>
      if running && isVisible c then
        c :: visibleFrom (if c ≤ '\x7f' then sequence else .none) true rest
      else if !running && sequence.shows c then c :: visibleFrom (sequence.next c) true rest
      else visibleFrom (sequence.next c) false rest

def visible (text : String) : String := String.ofList (visibleFrom .none false text.toList)

end Acceptance.Text
