import Acceptance.Tools.Streams

namespace Acceptance.Tools

open Tool
open Kernel (rounds endless)

structure Side where
  name : String
  descriptor : Nat
  rest : List Char := []
  ended : Bool := false

def Side.fill (side : Side) : Tool Side := do
  if side.ended || !side.rest.isEmpty then return side
  match ← readBlock side.descriptor 4096 with
  | .ok [] => return { side with ended := true }
  | .ok block => return { side with rest := block }
  | .error cause => die (shown side.name ++ ": " ++ cause.description)

def Side.skip (side : Side) (count : Nat) : Tool Side :=
  rounds (·.1) (fun ((side : Side), (left : Nat)) => do
    if left = 0 then return .finished side
    let side ← side.fill
    if side.ended then return .finished side
    let taken := min left side.rest.length
    return .again ({ side with rest := side.rest.drop taken }, left - taken)) endless (side, count)

structure CmpStyle where
  silent : Bool := false
  all : Bool := false
  showsBytes : Bool := false
  limit : Option Nat := none
  width : Nat := 1

def octalOf (c : Char) : String :=
  let digits := Nat.toDigits 8 c.toNat
  String.ofList (List.replicate (3 - digits.length) ' ' ++ digits)

structure Comparison where
  left : Side
  right : Side
  number : Nat := 1
  line : Nat := 1
  last : Option Char := none
  differs : Bool := false

namespace Comparison

def shorter (comparison : Comparison) (style : CmpStyle) (side : Side) : Tool Nat := do
  if !style.silent then
    let count := comparison.number - 1
    let place := if count = 0 then " which is empty"
      else if style.all then s!" after byte {count}"
      else
        -- A file that ends with a line is at its end, not in the next one.
        let atEnd := comparison.last = some '\n'
        let line := if atEnd then comparison.line - 1 else comparison.line
        s!" after byte {count}, " ++ (if atEnd then "line " else "in line ") ++ toString line
    tell ((← get).name ++ ": EOF on " ++ shown side.name ++ place ++ "\n")
  return 1

def report (comparison : Comparison) (style : CmpStyle) (left right : Char) : Tool Unit := do
  let bytes := octalOf left ++ " " ++ String.ofList (visible left)
  let others := octalOf right ++ " " ++ String.ofList (visible right)
  if style.all then
    let number := String.ofList (padNumber style.width comparison.number)
    if style.showsBytes then
      let column := bytes ++ String.ofList (List.replicate (8 - bytes.length) ' ')
      say (number ++ " " ++ column ++ " " ++ others ++ "\n")
    else say (number ++ " " ++ octalOf left ++ " " ++ octalOf right ++ "\n")
  else
    say (comparison.left.name ++ " " ++ comparison.right.name ++ " differ: " ++
      (if style.showsBytes then "byte " else "char ") ++ toString comparison.number ++ ", line " ++
      toString comparison.line ++
      (if style.showsBytes then " is " ++ bytes ++ " " ++ others else "") ++ "\n")

-- Passes over bytes that are the same, up to the limit.
def advance (limit : Option Nat) : List Char → List Char → Comparison → Comparison
  | a :: left, b :: right, comparison =>
      if a != b || limit.any (· < comparison.number) then
        { comparison with
          left := { comparison.left with rest := a :: left }
          right := { comparison.right with rest := b :: right } }
      else
        advance limit left right
          { comparison with
            number := comparison.number + 1, last := some a
            line := if a = '\n' then comparison.line + 1 else comparison.line }
  | left, right, comparison =>
      { comparison with
        left := { comparison.left with rest := left }
        right := { comparison.right with rest := right } }

def step (style : CmpStyle) (comparison : Comparison) : Tool (Kernel.Turn Comparison Nat) := do
  let left ← comparison.left.fill
  let right ← comparison.right.fill
  let comparison := advance style.limit left.rest right.rest { comparison with left, right }
  let result := if comparison.differs then 1 else 0
  if style.limit.any (· < comparison.number) then return .finished result
  let left := comparison.left
  let right := comparison.right
  match left.rest, right.rest with
  | a :: leftRest, b :: rightRest =>
      if style.silent then return .finished 1
      comparison.report style a b
      if !style.all then return .finished 1
      return .again
        { comparison with
          left := { left with rest := leftRest }, right := { right with rest := rightRest }
          number := comparison.number + 1, last := some a, differs := true
          line := if a = '\n' then comparison.line + 1 else comparison.line }
  | leftRest, rightRest =>
      if left.ended && right.ended && leftRest.isEmpty && rightRest.isEmpty then
        return .finished result
      if left.ended && leftRest.isEmpty && !rightRest.isEmpty then
        return .finished (← comparison.shorter style left)
      if right.ended && rightRest.isEmpty && !leftRest.isEmpty then
        return .finished (← comparison.shorter style right)
      return .again comparison

end Comparison

def skipCounts (text : String) : Tool (Nat × Nat) := do
  let number (part : List Char) : Tool Nat := do
    match Format.size? part with
    | some count => return count
    | none => misused ("invalid --ignore-initial value " ++ quote (String.ofList part))
  let first := text.toList.takeWhile (· != ':')
  match text.toList.drop first.length with
  | _ :: second =>
      let left ← number first
      return (left, ← number second)
  | [] =>
      let count ← number first
      return (count, count)

def openSide (path : String) (silent : Bool) : Tool Side := do
  match ← openInput path with
  | .ok descriptor => return { name := path, descriptor }
  | .error cause =>
      if silent then quit 2
      die (shown path ++ ": " ++ cause.description)

def Side.size? (side : Side) : Tool (Option Nat) := do
  match ← ask (.inspectOpen side.descriptor) with
  | .ok status => if status.kind = .file then return some status.size else return none
  | .error _ => return none

def numberWidth (left right : Side) : Tool Nat := do
  let sizes ← [left, right].filterMapM Side.size?
  return (Nat.toDigits 10 (sizes.min?.getD Int64.maxValue.toInt.toNat)).length

def cmpTool (arguments : List String) : Tool Nat := do
  let given ← options
    [.flag 'b' ["print-bytes"], .value 'i' ["ignore-initial"], .flag 'l' ["verbose"],
      .value 'n' ["bytes"], .flag 's' ["quiet", "silent"], .flag 'c' ["print-chars"]] arguments
  let (left, right, offsets) ← match given.operands with
    | [] => misused ("missing operand after " ++ quote (← get).name)
    | [left] => pure (left, "-", [])
    | [left, right] => pure (left, right, [])
    | [left, right, offset] => pure (left, right, [offset])
    | [left, right, offset, other] => pure (left, right, [offset, other])
    | _ :: _ :: _ :: _ :: extra :: _ => misused ("extra operand " ++ quote extra)
  let limit ← match given.value? "n" with
    | none => pure none
    | some text =>
        match Format.size? text.toList with
        | some count => pure (some count)
        | none => misused ("invalid --bytes value " ++ quote text)
  if given.has "l" && given.has "s" then misused "options -l and -s are incompatible"
  let (skipLeft, skipRight) ← match given.value? "i" with
    | some text => skipCounts text
    | none => pure (0, 0)
  let extras ← offsets.mapM fun text => do
    let (count, _) ← skipCounts text
    return count
  let skipLeft := max skipLeft (extras.headD 0)
  let skipRight := max skipRight (extras[1]?.getD 0)
  let silent := given.has "s"
  let leftSide ← openSide left silent
  let rightSide ← openSide right silent
  let width ← numberWidth leftSide rightSide
  let style : CmpStyle :=
    { silent, all := given.has "l", showsBytes := given.has "b" || given.has "c", limit, width }
  -- A file is not read twice.
  if left = "-" && right = "-" then return 0
  let leftSide ← leftSide.skip skipLeft
  let rightSide ← rightSide.skip skipRight
  rounds (fun _ => 0) (Comparison.step style) endless ({ left := leftSide, right := rightSide })

end Acceptance.Tools
