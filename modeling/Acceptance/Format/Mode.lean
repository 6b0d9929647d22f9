import Acceptance.Format.Escape

namespace Acceptance.Format

-- Descriptions of file modes, by number or by clauses that change an old mode.

def modeBits (old : Nat) (isDirectory : Bool) (c : Char) : Option Nat :=
  match c with
  | 'r' => some 0o444
  | 'w' => some 0o222
  | 'x' => some 0o111
  | 'X' => some (if isDirectory || old &&& 0o111 != 0 then 0o111 else 0)
  | 's' => some 0o6000
  | 't' => some 0o1000
  | 'u' => some (old / 64 % 8 * 0o111)
  | 'g' => some (old / 8 % 8 * 0o111)
  | 'o' => some (old % 8 * 0o111)
  | _ => none

def whoBits (who : List Char) : Nat :=
  who.foldl (fun bits c => bits ||| (match c with
    | 'u' => 0o4700
    | 'g' => 0o2070
    | 'o' => 0o1007
    | _ => 0o7777)) 0

def isModeOperator (c : Char) : Bool := c == '+' || c == '-' || c == '='

def modeActions (mask who : Nat) (anyone isDirectory : Bool) : Nat → Nat → List Char →
    Option Nat
  | _, mode, [] => some mode
  | 0, _, _ => none
  | fuel + 1, mode, operator :: rest => do
      if !isModeOperator operator then none
      let letters := rest.takeWhile (!isModeOperator ·)
      let bits ← letters.foldlM (fun bits c => (modeBits mode isDirectory c).map (bits ||| ·)) 0
      let bits := bits &&& who
      let bits := if anyone then bits - (bits &&& mask) else bits
      let changed := match operator with
        | '+' => mode ||| bits
        | '-' => mode - (mode &&& bits)
        | _ => mode - (mode &&& who) + bits
      modeActions mask who anyone isDirectory fuel changed (rest.drop letters.length)

def modeClause (mask : Nat) (isDirectory : Bool) (mode : Nat) (clause : List Char) : Option Nat :=
  let who := clause.takeWhile fun c => "ugoa".toList.contains c
  let rest := clause.drop who.length
  if rest.isEmpty then none
  else
    let anyone := who.isEmpty
    modeActions mask (if anyone then 0o7777 else whoBits who) anyone isDirectory
      (rest.length + 1) mode rest

def newMode (mask : Nat) (isDirectory : Bool) (text : String) (old : Nat) : Option Nat :=
  if !text.isEmpty && text.toList.all fun c => '0' ≤ c && c ≤ '7' then
    let value := (octal text.length text.toList).1
    if value < 0o10000 then some value else none
  else (text.splitOn ",").foldlM (fun mode clause =>
    modeClause mask isDirectory mode clause.toList) old

end Acceptance.Format
