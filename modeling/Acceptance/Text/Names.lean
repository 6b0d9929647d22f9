import Acceptance.Text.Utf8

namespace Acceptance.Text

-- The names of the operating system are bytes. They are held as texts in which every byte that is
-- part of no character stands by itself, as one of the last 128 characters. These mean nothing
-- else: a name that holds such a character is spelled by the four bytes of it.
def isMark (c : Char) : Bool := 0x10FF80 ≤ c.toNat

def markOf (byte : UInt8) : Char := Char.ofNat (0x10FF00 + byte.toNat)

def byteOf (mark : Char) : UInt8 := mark.toNat.toUInt8

def nameBytes (name : String) : Bytes :=
  name.toList.flatMap fun c => if isMark c then [byteOf c] else String.utf8EncodeChar c

-- `skip` counts the bytes that belong to the character just read.
def nameFrom : Nat → Bytes → List Char
  | _, [] => []
  | skip + 1, _ :: rest => nameFrom skip rest
  | 0, first :: rest =>
      match continuations first with
      | none => markOf first :: nameFrom 0 rest
      | some conditions =>
          let count := satisfied conditions rest
          let c := assemble first (rest.take count)
          if count = conditions.length && !isMark c then c :: nameFrom count rest
          else markOf first :: nameFrom 0 rest

def nameOfBytes (bytes : Bytes) : String := String.ofList (nameFrom 0 bytes)

def ofText (text : String) : String :=
  if text.toList.any isMark then
    String.ofList (text.toList.flatMap fun c =>
      if isMark c then (String.utf8EncodeChar c).map markOf else [c])
  else text

def size (name : String) : Nat :=
  name.toList.foldr (fun c total => (if isMark c then 1 else c.utf8Size) + total) 0

-- The text by which a name is told. Names that are no text may share one.
def shown (name : String) : String :=
  if name.toList.any isMark then lossy (nameBytes name) else name

def isText (name : String) : Bool := ofText (shown name) == name

end Acceptance.Text
