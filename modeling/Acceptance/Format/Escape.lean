
namespace Acceptance.Format

-- Escapes: a backslash and a letter or a number for characters that are hard to write.

def octalDigit? (c : Char) : Option Nat :=
  if '0' ≤ c ∧ c ≤ '7' then some (c.toNat - '0'.toNat) else none

def hexDigit? (c : Char) : Option Nat :=
  if c.isDigit then some (c.toNat - 48)
  else if 'a' ≤ c ∧ c ≤ 'f' then some (c.toNat - 87)
  else if 'A' ≤ c ∧ c ≤ 'F' then some (c.toNat - 55)
  else none

-- Up to `count` digits of a base: their value and what follows.
def digits (digit? : Char → Option Nat) (base : Nat) : Nat → Nat → List Char → Nat × List Char
  | 0, value, text => (value, text)
  | count + 1, value, text =>
      match text with
      | c :: rest =>
          match digit? c with
          | some digit => digits digit? base count (value * base + digit) rest
          | none => (value, text)
      | [] => (value, [])

def octal (count : Nat) (text : List Char) : Nat × List Char := digits octalDigit? 8 count 0 text

def octet (value : Nat) : Char := Char.ofNat (value % 256)

def control? : Char → Option Char
  | 'a' => some '\x07'
  | 'b' => some '\x08'
  | 'f' => some '\x0c'
  | 'n' => some '\n'
  | 'r' => some '\r'
  | 't' => some '\t'
  | 'v' => some '\x0b'
  | '\\' => some '\\'
  | _ => none

end Acceptance.Format
