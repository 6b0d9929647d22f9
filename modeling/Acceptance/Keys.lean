import Acceptance.Text.Blank
import Acceptance.Text.Utf8

namespace Acceptance.Keys

-- Keys typed on a terminal, and the line that a text question collects from them.

inductive Key where
  | enter
  | backspace
  | left
  | right
  | wordLeft
  | wordRight
  | interrupt
  | character (c : Char)
  | other
  deriving DecidableEq, Repr

def escape : UInt8 := 0x1b

def interruptByte : UInt8 := 0x03

def following (byte : UInt8) : Nat :=
  if byte &&& 0xe0 == 0xc0 then 1
  else if byte &&& 0xf0 == 0xe0 then 2
  else if byte &&& 0xf8 == 0xf0 then 3
  else 0

def plain (byte : UInt8) : Key :=
  if byte == interruptByte then .interrupt
  else if byte == 0x0a || byte == 0x0d then .enter
  else if byte == 0x7f || byte == 0x08 then .backspace
  else if byte == 0x09 || byte == 0x01 || byte == 0x05 then .other
  else .character (Char.ofNat byte.toNat)

def encoded (bytes : List UInt8) : Key :=
  match (Text.ofUtf8? bytes).bind (·.toList.head?) with
  | some c => .character c
  | none => .other

def lettered? (byte : UInt8) : Option Key :=
  if byte == 0x43 then some .right
  else if byte == 0x44 then some .left
  else if byte == 0x41 || byte == 0x42 || byte == 0x46 || byte == 0x48 || byte == 0x5a then
    some .other
  else none

def escaped : List UInt8 → Key × List UInt8
  | [] => (.other, [])
  | 0x03 :: rest => (.interrupt, rest)
  | 0x62 :: rest => (.wordLeft, rest)
  | 0x66 :: rest => (.wordRight, rest)
  | 0x5b :: byte :: rest =>
      if byte == interruptByte then (.interrupt, rest)
      else
        match lettered? byte with
        | some key => (key, rest)
        | none => (if rest.head? == some interruptByte then .interrupt else .other, rest.tail)
  | _ :: rest => (.other, rest)

-- The next key, and the bytes after it. Nothing typed is no key.
def next? : List UInt8 → Option (Key × List UInt8)
  | [] => none
  | byte :: rest =>
      if byte == escape then some (escaped rest)
      else
        match following byte with
        | 0 => some (plain byte, rest)
        | count =>
            if rest.length < count then none
            else some (encoded (byte :: rest.take count), rest.drop count)

-- All keys of a text. There is at most one for each byte.
def keysOf : Nat → List UInt8 → List Key
  | 0, _ => []
  | fuel + 1, bytes =>
      match next? bytes with
      | none => []
      | some (key, rest) => key :: keysOf fuel rest

def typing (text : String) : List Key :=
  let bytes := Text.utf8 text
  keysOf bytes.length bytes

-- A line being edited, split at the cursor. What is before the cursor is held backwards.
structure Line where
  before : List Char := []
  after : List Char := []
  deriving DecidableEq, Repr

namespace Line

def text (line : Line) : List Char := line.before.reverse ++ line.after

def isControl (c : Char) : Bool := c.toNat < 0x20 || c.toNat == 0x7f

def back (line : Line) (count : Nat) : Line :=
  { before := line.before.drop count, after := (line.before.take count).reverse ++ line.after }

def forth (line : Line) (count : Nat) : Line :=
  { before := (line.after.take count).reverse ++ line.before, after := line.after.drop count }

def wordBefore (line : Line) : Nat :=
  let blanks := line.before.takeWhile Text.isBlank
  blanks.length + ((line.before.drop blanks.length).takeWhile (!Text.isBlank ·)).length

def wordAfter (line : Line) : Nat :=
  let word := line.after.takeWhile (!Text.isBlank ·)
  word.length + ((line.after.drop word.length).takeWhile Text.isBlank).length

def press (line : Line) : Key → Line
  | .character c => if isControl c then line else { line with before := c :: line.before }
  | .backspace => { line with before := line.before.tail }
  | .left => line.back 1
  | .right => line.forth 1
  | .wordLeft => line.back line.wordBefore
  | .wordRight => line.forth line.wordAfter
  | .enter | .interrupt | .other => line

end Line

-- Why a question stays without an answer.
inductive Unanswered where
  | noKeys
  | interrupted
  deriving DecidableEq, Repr

-- The line typed up to the next enter key, and the keys after that.
def typeLine : Line → List Key → Except Unanswered (List Char × List Key)
  | _, [] => .error .noKeys
  | line, .enter :: keys => .ok (line.text, keys)
  | _, .interrupt :: _ => .error .interrupted
  | line, key :: keys => typeLine (line.press key) keys

end Acceptance.Keys
