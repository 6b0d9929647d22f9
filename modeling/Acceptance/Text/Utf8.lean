
namespace Acceptance.Text

abbrev Bytes := List UInt8

def utf8 (text : String) : Bytes := text.toList.flatMap String.utf8EncodeChar

def ofUtf8? (bytes : Bytes) : Option String := String.fromUTF8? ⟨bytes.toArray⟩

def isContinuation (byte : UInt8) : Bool := 0x80 ≤ byte && byte ≤ 0xBF

-- What each byte after a first byte has to satisfy, or none for a byte that starts nothing. The
-- second byte is restricted further where a shorter form or no character would result.
def continuations (first : UInt8) : Option (List (UInt8 → Bool)) :=
  if first < 0x80 then some []
  else if first < 0xC2 then none
  else if first < 0xE0 then some [isContinuation]
  else if first == 0xE0 then some [fun b => 0xA0 ≤ b && b ≤ 0xBF, isContinuation]
  else if first == 0xED then some [fun b => 0x80 ≤ b && b ≤ 0x9F, isContinuation]
  else if first < 0xF0 then some [isContinuation, isContinuation]
  else if first == 0xF0 then
    some [fun b => 0x90 ≤ b && b ≤ 0xBF, isContinuation, isContinuation]
  else if first < 0xF4 then some [isContinuation, isContinuation, isContinuation]
  else if first == 0xF4 then
    some [fun b => 0x80 ≤ b && b ≤ 0x8F, isContinuation, isContinuation]
  else none

-- How many of the bytes satisfy their conditions, up to the first that does not.
def satisfied : List (UInt8 → Bool) → Bytes → Nat
  | condition :: conditions, byte :: bytes =>
      if condition byte then satisfied conditions bytes + 1 else 0
  | _, _ => 0

def replacement : Char := '�'

def assemble (first : UInt8) (others : Bytes) : Char :=
  let lead := match others.length with
    | 0 => first.toNat
    | 1 => first.toNat % 32
    | 2 => first.toNat % 16
    | _ => first.toNat % 8
  Char.ofNat (others.foldl (fun value byte => value * 64 + byte.toNat % 64) lead)

-- `skip` counts the bytes that belong to the part just read.
def lossyFrom : Nat → Bytes → List Char
  | _, [] => []
  | skip + 1, _ :: rest => lossyFrom skip rest
  | 0, first :: rest =>
      match continuations first with
      | none => replacement :: lossyFrom 0 rest
      | some conditions =>
          let count := satisfied conditions rest
          let c := if count = conditions.length then assemble first (rest.take count)
            else replacement
          c :: lossyFrom count rest

def lossy (bytes : Bytes) : String := String.ofList (lossyFrom 0 bytes)

end Acceptance.Text
