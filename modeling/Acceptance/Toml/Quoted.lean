import Acceptance.Toml.Number

namespace Acceptance.Toml

def isPlain (c : Char) : Bool := c == '\t' || (0x20 ≤ c.toNat && c.toNat != 0x7F)

def coded? (digits : List Char) : Option Char :=
  let code := natural 16 digits
  if digits.all isHex && code.isValidChar then some (Char.ofNat code) else none

def letterEscape? : Char → Option Char
  | 'b' => some '\x08'
  | 't' => some '\t'
  | 'n' => some '\n'
  | 'f' => some '\x0c'
  | 'r' => some '\r'
  | 'e' => some '\x1b'
  | '"' => some '"'
  | '\\' => some '\\'
  | _ => none

def codeLength? : Char → Option Nat
  | 'x' => some 2
  | 'u' => some 4
  | 'U' => some 8
  | _ => none

-- The character of the escape whose backslash was just read, and the length of the rest of the
-- escape.
def escape? : List Char → Option (Char × Nat)
  | [] => none
  | mark :: rest =>
      match codeLength? mark with
      | some length =>
          let digits := rest.take length
          if digits.length < length then none
          else (coded? digits).map fun c => (c, length + 1)
      | none => (letterEscape? mark).map fun c => (c, 1)

abbrev Reading := Option (List Char × List Char)

def Reading.push (c : Char) (reading : Reading) : Reading :=
  reading.map fun (content, rest) => (c :: content, rest)

def readBasic : Nat → List Char → Reading
  | _, [] => none
  | skip + 1, _ :: rest => readBasic skip rest
  | 0, c :: rest =>
      if c = '"' then some ([], rest)
      else if c = '\\' then
        match escape? rest with
        | some (escaped, length) => Reading.push escaped (readBasic length rest)
        | none => none
      else if isPlain c then Reading.push c (readBasic 0 rest)
      else none

def readLiteral : List Char → Reading
  | [] => none
  | c :: rest =>
      if c = '\'' then some ([], rest)
      else if isPlain c then Reading.push c (readLiteral rest)
      else none

def isGap (c : Char) : Bool := c == ' ' || c == '\t'

def isLineEnd : List Char → Bool
  | '\n' :: _ => true
  | '\r' :: '\n' :: _ => true
  | _ => false

def gapLength : List Char → Nat
  | '\r' :: '\n' :: rest => gapLength rest + 2
  | c :: rest => if isGap c || c == '\n' then gapLength rest + 1 else 0
  | [] => 0

-- The length of a line continuation whose backslash was just read: everything up to the next
-- character that is no blank, if the line ends in between.
def continuation? (text : List Char) : Option Nat :=
  if isLineEnd (text.dropWhile isGap) then some (gapLength text) else none

def runLength (mark : Char) (text : List Char) : Nat := (text.takeWhile (· == mark)).length

-- Three marks close the string; up to two before them belong to its content.
def closing? (mark : Char) (text : List Char) : Option (Nat × List Char) :=
  let run := min (runLength mark text) 5
  if 3 ≤ run then some (run - 3, text.drop run) else none

def isLineText (c : Char) (rest : List Char) : Bool :=
  isPlain c || c == '\n' || (c == '\r' && rest.head? == some '\n')

def readBasicLines : Nat → List Char → Reading
  | _, [] => none
  | skip + 1, _ :: rest => readBasicLines skip rest
  | 0, c :: rest =>
      match closing? '"' (c :: rest) with
      | some (extra, after) => some (List.replicate extra '"', after)
      | none =>
          if c = '\\' then
            match continuation? rest with
            | some length => readBasicLines length rest
            | none =>
                match escape? rest with
                | some (escaped, length) => Reading.push escaped (readBasicLines length rest)
                | none => none
          else if isLineText c rest then Reading.push c (readBasicLines 0 rest)
          else none

def readLiteralLines : List Char → Reading
  | [] => none
  | c :: rest =>
      match closing? '\'' (c :: rest) with
      | some (extra, after) => some (List.replicate extra '\'', after)
      | none =>
          if isLineText c rest then Reading.push c (readLiteralLines rest) else none

-- A line end directly behind three opening marks is no part of the content.
def dropFirstLineEnd : List Char → List Char
  | '\n' :: rest => rest
  | '\r' :: '\n' :: rest => rest
  | text => text

-- The string at the start of the text, in any of the four forms.
def readString? : List Char → Reading
  | '"' :: '"' :: '"' :: rest => readBasicLines 0 (dropFirstLineEnd rest)
  | '"' :: rest => readBasic 0 rest
  | '\'' :: '\'' :: '\'' :: rest => readLiteralLines (dropFirstLineEnd rest)
  | '\'' :: rest => readLiteral rest
  | _ => none

end Acceptance.Toml
