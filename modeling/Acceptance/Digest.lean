import Acceptance.Text.Utf8

namespace Acceptance.Digest

open Text (Bytes)

def crcByte (crc : UInt32) (byte : UInt8) : UInt32 :=
  let start := crc ^^^ (byte.toUInt32 <<< 24)
  (List.range 8).foldl (fun crc _ =>
    if crc &&& 0x80000000 != 0 then (crc <<< 1) ^^^ 0x04C11DB7 else crc <<< 1) start

def lengthBytes : Nat → Nat → List UInt8
  | 0, _ => []
  | fuel + 1, number => if number = 0 then [] else number.toUInt8 :: lengthBytes fuel (number / 256)

def crc (content : Bytes) : Nat :=
  let all := content.foldl crcByte 0
  (~~~ (lengthBytes 16 content.length).foldl crcByte all).toNat

def padded (block lengthSize : Nat) (lowFirst : Bool) (content : Bytes) : Bytes :=
  let size := content.length
  let zeros := (2 * block - (size + 1 + lengthSize) % block) % block
  let bits := size * 8
  let bytes := (List.range lengthSize).map fun index => (bits / Nat.pow 256 index).toUInt8
  content ++ [0x80] ++ List.replicate zeros 0 ++ (if lowFirst then bytes else bytes.reverse)

def chunks (size : Nat) : Nat → Bytes → List Bytes
  | 0, _ => []
  | _, [] => []
  | fuel + 1, bytes => bytes.take size :: chunks size fuel (bytes.drop size)

def word32 (bytes : Bytes) : UInt32 :=
  bytes.foldl (fun word byte => (word <<< 8) ||| byte.toUInt32) 0

def rotateLeft (word : UInt32) (count : UInt32) : UInt32 :=
  (word <<< count) ||| (word >>> (32 - count))

def hexOf (digits value : Nat) : String :=
  let text := Nat.toDigits 16 value
  String.ofList (List.replicate (digits - text.length) '0' ++ text)

def md5Shifts : List UInt32 :=
  let rounds : List (List UInt32) :=
    [[7, 12, 17, 22], [5, 9, 14, 20], [4, 11, 16, 23], [6, 10, 15, 21]]
  rounds.flatMap fun round => round ++ round ++ round ++ round

def md5Constants : Array UInt32 := #[
  0xd76aa478, 0xe8c7b756, 0x242070db, 0xc1bdceee, 0xf57c0faf, 0x4787c62a, 0xa8304613, 0xfd469501,
  0x698098d8, 0x8b44f7af, 0xffff5bb1, 0x895cd7be, 0x6b901122, 0xfd987193, 0xa679438e, 0x49b40821,
  0xf61e2562, 0xc040b340, 0x265e5a51, 0xe9b6c7aa, 0xd62f105d, 0x02441453, 0xd8a1e681, 0xe7d3fbc8,
  0x21e1cde6, 0xc33707d6, 0xf4d50d87, 0x455a14ed, 0xa9e3e905, 0xfcefa3f8, 0x676f02d9, 0x8d2a4c8a,
  0xfffa3942, 0x8771f681, 0x6d9d6122, 0xfde5380c, 0xa4beea44, 0x4bdecfa9, 0xf6bb4b60, 0xbebfbc70,
  0x289b7ec6, 0xeaa127fa, 0xd4ef3085, 0x04881d05, 0xd9d4d039, 0xe6db99e5, 0x1fa27cf8, 0xc4ac5665,
  0xf4292244, 0x432aff97, 0xab9423a7, 0xfc93a039, 0x655b59c3, 0x8f0ccc92, 0xffeff47d, 0x85845dd1,
  0x6fa87e4f, 0xfe2ce6e0, 0xa3014314, 0x4e0811a1, 0xf7537e82, 0xbd3af235, 0x2ad7d2bb, 0xeb86d391]

abbrev Four := UInt32 × UInt32 × UInt32 × UInt32

def md5Step (words : Array UInt32) (state : Four) (step : Nat × UInt32) : Four :=
  let (a, b, c, d) := state
  let (index, shift) := step
  let (mixed, place) :=
    if index < 16 then ((b &&& c) ||| (~~~ b &&& d), index)
    else if index < 32 then ((d &&& b) ||| (~~~ d &&& c), (5 * index + 1) % 16)
    else if index < 48 then (b ^^^ c ^^^ d, (3 * index + 5) % 16)
    else (c ^^^ (b ||| ~~~ d), (7 * index) % 16)
  let sum := a + mixed + md5Constants.getD index 0 + words.getD place 0
  (d, b + rotateLeft sum shift, b, c)

def md5Block (state : Four) (block : Bytes) : Four :=
  let words := ((chunks 4 16 block).map fun bytes => word32 bytes.reverse).toArray
  let (a, b, c, d) := ((List.range 64).zip md5Shifts).foldl (md5Step words) state
  (state.1 + a, state.2.1 + b, state.2.2.1 + c, state.2.2.2 + d)

def md5 (content : Bytes) : String :=
  let bytes := padded 64 8 true content
  let (a, b, c, d) := (chunks 64 (bytes.length / 64 + 1) bytes).foldl md5Block
    (0x67452301, 0xefcdab89, 0x98badcfe, 0x10325476)
  String.join ([a, b, c, d].flatMap fun word => (List.range 4).map fun index =>
    hexOf 2 (word.toNat / Nat.pow 256 index % 256))

end Acceptance.Digest
