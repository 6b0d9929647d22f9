import Acceptance.Regex.Basic
import Acceptance.Tools.Streams

namespace Acceptance.Tools

open Tool
open Kernel (rounds endless)

inductive SetPart where
  | single (c : Char)
  | range (low high : Char)
  | named (name : String)
  | same (c : Char)
  | repeated (c : Char) (count : Nat)

namespace SetPart

def allBytes : List Char := (List.range 256).map Char.ofNat

def members : SetPart → List Char
  | .single c | .same c => [c]
  | .range low high => allBytes.filter fun c => low ≤ c && c ≤ high
  | .named name => ((Letters.class? name).map allBytes.filter).getD []
  | .repeated c count => List.replicate count c

end SetPart

structure SetChar where
  char : Char
  escaped : Bool := false

def unescapeSet : Nat → List Char → List SetChar × Bool
  | 0, _ => ([], false)
  | _, [] => ([], false)
  | _, ['\\'] => ([⟨'\\', false⟩], true)
  | fuel + 1, '\\' :: c :: rest =>
      if (Format.octalDigit? c).isSome then
        let (value, after) := Format.octal 3 (c :: rest)
        let (value, after) := if value < 256 then (value, after)
          else Format.octal 2 (c :: rest)
        let (chars, alone) := unescapeSet fuel after
        (⟨Char.ofNat value, true⟩ :: chars, alone)
      else
        let (chars, alone) := unescapeSet fuel rest
        (⟨(Format.control? c).getD c, true⟩ :: chars, alone)
  | fuel + 1, c :: rest =>
      let (chars, alone) := unescapeSet fuel rest
      (⟨c, false⟩ :: chars, alone)

def isMark (c : SetChar) (mark : Char) : Bool := c.char == mark && !c.escaped

def bracketed (mark : Char) : List SetChar → Option (List Char × List SetChar)
  | first :: second :: rest =>
      if isMark first mark && isMark second ']' then some ([], rest)
      else do
        let (name, after) ← bracketed mark (second :: rest)
        return (first.char :: name, after)
  | _ => none

def repetition? (text : List SetChar) : Option (Nat × List SetChar) :=
  let digits := text.takeWhile fun c => c.char.isDigit && !c.escaped
  match text.drop digits.length with
  | c :: rest =>
      if isMark c ']' then
        let digits := digits.map (·.char)
        let value := if digits.head? = some '0' then (Format.octal digits.length digits).1
          else Format.natOf digits
        some (value, rest)
      else none
  | [] => none

def readSet : Nat → List SetChar → Tool (List SetPart)
  | 0, _ => return []
  | _, [] => return []
  | fuel + 1, c :: rest => do
      let plain : Tool (List SetPart) := do
        match rest with
        | dash :: high :: after =>
            if isMark dash '-' then
              if high.char < c.char then
                let show_ (c : Char) : String := String.ofList (visible c)
                die ("range-endpoints of '" ++ show_ c.char ++ "-" ++ show_ high.char ++
                  "' are in reverse collating sequence order")
              return .range c.char high.char :: (← readSet fuel after)
            else return .single c.char :: (← readSet fuel rest)
        | _ => return .single c.char :: (← readSet fuel rest)
      if !isMark c '[' then plain
      else
        match rest with
        | mark :: inner =>
            if isMark mark ':' then
              match bracketed ':' inner with
              | some (name, after) =>
                  let name := String.ofList name
                  if (Letters.class? name).isNone then
                    die ("invalid character class " ++ quote name)
                  return .named name :: (← readSet fuel after)
              | none => plain
            else if isMark mark '=' then
              match bracketed '=' inner with
              | some ([only], after) => return .same only :: (← readSet fuel after)
              | some (name, _) =>
                  die (String.ofList name ++
                    ": equivalence class operand must be a single character")
              | none => plain
            else
              match inner with
              | star :: after =>
                  match if isMark star '*' then repetition? after else none with
                  | some (count, after) =>
                      return .repeated mark.char count :: (← readSet fuel after)
                  | none => plain
              | [] => plain
        | [] => plain

def setOf (text : String) : Tool (List SetPart) := do
  let (chars, alone) := unescapeSet (text.length + 1) text.toList
  if alone then
    warn "warning: an unescaped backslash at end of string is not portable"
  readSet (chars.length + 1) chars

def fillSet (size : Nat) (parts : List SetPart) : List Char :=
  let fixed := parts.foldl (fun size part => size + part.members.length) 0
  parts.flatMap fun part =>
    match part with
    | .repeated c 0 => List.replicate (size - fixed) c
    | part => part.members

structure Exchange where
  map : Array (Option Char)
  squeezes : Array Bool

def Exchange.apply (exchange : Exchange) (last : Option Char) (block : List Char) :
    List Char × Option Char :=
  let (text, last) := block.foldl (fun (text, last) c =>
    match (exchange.map[c.toNat]?).getD (some c) with
    | none => (text, last)
    | some c =>
        if last = some c && (exchange.squeezes[c.toNat]?).getD false then (text, last)
        else (c :: text, some c)) (([] : List Char), last)
  (text.reverse, last)

def membersTable (members : List Char) : Array Bool :=
  members.foldl (fun table c => table.setIfInBounds c.toNat true) (Array.replicate 256 false)

def isClass : SetPart → Bool
  | .named _ => true
  | _ => false

def isCaseClass : SetPart → Bool
  | .named name => name == "upper" || name == "lower"
  | _ => false

def exchangeMap (truncates complement : Bool) (first second : List SetPart) :
    Tool (Array (Option Char)) := do
  let source := first.flatMap SetPart.members
  let source := if complement then
      SetPart.allBytes.filter fun c => !(membersTable source).getD c.toNat false
    else source
  if second.any fun part => isClass part && !isCaseClass part then
    die ("when translating, the only character classes that may appear in\n" ++
      "string2 are 'upper' and 'lower'")
  let target := fillSet source.length second
  if target.isEmpty && !truncates then
    die "when not truncating set1, string2 must be non-empty"
  if target.length < source.length && !truncates && (second.getLast?.any isClass) then
    die ("when translating with string1 longer than string2,\n" ++
      "the latter string must not end with a character class")
  let target := if truncates then target
    else target ++ List.replicate (source.length - target.length) (target.getLastD ' ')
  return (source.zip target).foldl (fun map (c, other) =>
    map.setIfInBounds c.toNat (some other))
    ((List.range 256).map fun code => some (Char.ofNat code)).toArray

def trTool (arguments : List String) : Tool Nat := do
  let given ← optionsIn true
    [.flag 'c' ["complement"], .flag 'C' [], .flag 'd' ["delete"], .flag 's' ["squeeze-repeats"],
      .flag 't' ["truncate-set1"]] arguments
  let deletes := given.has "d"
  let squeezes := given.has "s"
  let complement := given.has "c" || given.has "C"
  let explained {α : Type} (message reason : String) : Tool α := do
    warn message
    tell (reason ++ "\n" ++ (← hint))
    quit 1
  let (first, second) ← match given.operands with
    | [] => missingOperand
    | [first] =>
        if !deletes && !squeezes then
          explained ("missing operand after " ++ quote first)
            "Two strings must be given when translating."
        else if deletes && squeezes then
          explained ("missing operand after " ++ quote first)
            "Two strings must be given when both deleting and squeezing repeats."
        else pure (first, none)
    | [first, second] =>
        if deletes && !squeezes then
          explained ("extra operand " ++ quote second)
            "Only one string may be given when deleting without squeezing repeats."
        else pure (first, some second)
    | _ :: _ :: extra :: _ => extraOperand extra
  let firstParts ← setOf first
  let secondParts ← match second with
    | some text => setOf text
    | none => pure []
  let members := firstParts.flatMap SetPart.members
  let isIn := (membersTable members).map fun inside => inside != complement
  let identity : Array (Option Char) :=
    ((List.range 256).map fun code => some (Char.ofNat code)).toArray
  let map ← if deletes then
      pure (identity.mapIdx fun index c => if isIn.getD index false then none else c)
    else if second.isSome then
      exchangeMap (given.has "t") complement firstParts secondParts
    else pure identity
  let squeezed := if !squeezes then Array.replicate 256 false
    else if second.isSome then
      membersTable (fillSet (if deletes then 0 else 256) secondParts)
    else isIn
  let exchange : Exchange := { map, squeezes := squeezed }
  rounds (fun _ => ()) (fun (last : Option Char) => do
    match ← readBlock 0 8192 with
    | .ok block =>
        if block.isEmpty then return .finished ()
        let (text, last) := exchange.apply last block
        put text
        return .again last
    | .error cause =>
        fault ("read error: " ++ cause.description)
        return .finished ()) endless none
  done

end Acceptance.Tools
