import Acceptance.Text.Names

namespace Acceptance.Text

def ofBytes (bytes : Bytes) : List Char := bytes.map fun byte => Char.ofNat byte.toNat

def toBytes (octets : List Char) : Bytes := octets.map fun c => c.toNat.toUInt8

def isAscii (text : String) : Bool := text.toList.all (·.toNat < 0x80)

def encode (text : String) : String :=
  if isAscii text then text else String.ofList (ofBytes (utf8 text))

-- The octets of a name, and the name that octets spell.
def octetsOf (name : String) : String :=
  if isAscii name then name else String.ofList (ofBytes (nameBytes name))

def nameOf (octets : String) : String :=
  if isAscii octets then octets else nameOfBytes (toBytes octets.toList)

end Acceptance.Text
