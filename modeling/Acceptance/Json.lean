
namespace Acceptance

inductive Json where
  | natural (value : Nat)
  | decimal (written : List Char)
  | text (value : String)
  | array (items : List Json)
  | object (fields : List (String × Json))

namespace Json

def hexDigit (value : Nat) : Char := Nat.digitChar value

def escape (c : Char) : List Char :=
  if c == '"' then ['\\', '"']
  else if c == '\\' then ['\\', '\\']
  else if c == '\x08' then ['\\', 'b']
  else if c == '\x0c' then ['\\', 'f']
  else if c == '\n' then ['\\', 'n']
  else if c == '\r' then ['\\', 'r']
  else if c == '\t' then ['\\', 't']
  else if c.toNat < 0x20 then
    ['\\', 'u', '0', '0', hexDigit (c.toNat / 16), hexDigit (c.toNat % 16)]
  else [c]

def quote (text : List Char) : List Char := '"' :: (text.flatMap escape ++ ['"'])

def newline (depth : Nat) : List Char := '\n' :: List.replicate (2 * depth) ' '

mutual

def write (depth : Nat) : Json → List Char
  | .natural value => Nat.toDigits 10 value
  | .decimal written => written
  | .text value => quote value.toList
  | .array [] => ['[', ']']
  | .array (item :: items) =>
      '[' :: (newline (depth + 1) ++ write (depth + 1) item ++ writeItems (depth + 1) items ++
        newline depth ++ [']'])
  | .object [] => ['\x7b', '\x7d']
  | .object ((key, value) :: fields) =>
      '\x7b' :: (newline (depth + 1) ++ quote key.toList ++ [':', ' '] ++ write (depth + 1) value ++
        writeFields (depth + 1) fields ++ newline depth ++ ['\x7d'])

def writeItems (depth : Nat) : List Json → List Char
  | [] => []
  | item :: items => ',' :: (newline depth ++ write depth item ++ writeItems depth items)

def writeFields (depth : Nat) : List (String × Json) → List Char
  | [] => []
  | (key, value) :: fields =>
      ',' :: (newline depth ++ quote key.toList ++ [':', ' '] ++ write depth value ++
        writeFields depth fields)

end

def render (value : Json) : String := String.ofList (write 0 value)

end Json
end Acceptance
