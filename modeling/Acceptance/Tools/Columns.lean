import Acceptance.Tools.Streams

namespace Acceptance.Tools

open Tool
open Kernel (rounds endless)

-- The lines of two sorted files side by side.

def contentOf (path : String) : Tool (List Char) := do
  match ← readFile path with
  | .ok text => return text
  | .error cause => die (shown path ++ ": " ++ cause.description)

def splitAtChar (separator : Char) (text : List Char) : List (List Char) :=
  text.foldr (fun c pieces =>
    if c = separator then [] :: pieces
    else
      match pieces with
      | piece :: rest => (c :: piece) :: rest
      | [] => [[c]]) [[]]

def joinWith (separator : List Char) : List (List Char) → List Char
  | [] => []
  | [piece] => piece
  | piece :: rest => piece ++ separator ++ joinWith separator rest

structure Sorted where
  lines : Lines
  next : Option (List Char) := none
  before : Option (List Char) := none

inductive OrderCheck where
  | never
  | always
  -- Only if the lines do not pair up.
  | unpaired
  deriving DecidableEq

def Sorted.advance (finish : Char) (sorted : Sorted) : Tool Sorted := do
  let (line, lines) ← nextLineTo finish sorted.lines
  return { lines, next := line.map (·.text), before := sorted.next }

def Sorted.isDisordered (sorted : Sorted) : Bool :=
  match sorted.before, sorted.next with
  | some before, some next => decide (next < before)
  | _, _ => false

-- The state of a comparison of two sorted files: which of them were found out of order, and how
-- many lines of each kind there are.
structure Merging where
  left : Sorted
  right : Sorted
  warnedLeft : Bool := false
  warnedRight : Bool := false
  unpaired : Bool := false
  counts : Nat × Nat × Nat := (0, 0, 0)

def checkOrder (check : OrderCheck) (merging : Merging) (isLeft : Bool) : Tool Merging := do
  let sorted := if isLeft then merging.left else merging.right
  let warned := if isLeft then merging.warnedLeft else merging.warnedRight
  if check = .never || warned || !sorted.isDisordered ||
      !(check = .always || merging.unpaired) then return merging
  fault ("file " ++ (if isLeft then "1" else "2") ++ " is not in sorted order")
  if check = .always then quit 1
  return if isLeft then { merging with warnedLeft := true }
    else { merging with warnedRight := true }

def commTool (arguments : List String) : Tool Nat := do
  let given ← options
    [.flag '1' [], .flag '2' [], .flag '3' [], .longFlag "check-order",
      .longFlag "nocheck-order", .longValue "output-delimiter", .longFlag "total",
      .flag 'z' ["zero-terminated"]] arguments
  let (leftPath, rightPath) ← match given.operands with
    | [] => missingOperand
    | [only] => misused ("missing operand after " ++ quote only)
    | [left, right] => pure (left, right)
    | _ :: _ :: extra :: _ => extraOperand extra
  let finish := if given.has "z" then '\x00' else '\n'
  let delimiter := match given.value? "output-delimiter" with
    | some "" => ['\x00']
    | some text => text.toList
    | none => ['\t']
  let check : OrderCheck := match given.last? ["check-order", "nocheck-order"] with
    | some "check-order" => .always
    | some _ => .never
    | none => .unpaired
  let open_ (path : String) : Tool Sorted := do
    match ← openInput path with
    | .ok descriptor => ({ lines := { descriptor } : Sorted }).advance finish
    | .error cause => die (shown path ++ ": " ++ cause.description)
  let left ← open_ leftPath
  let right ← open_ rightPath
  let show_ (column : Nat) (line : List Char) : Tool Unit := do
    if !given.has (toString column) then
      let before := (List.range (column - 1)).filter fun index => !given.has (toString (index + 1))
      put ((before.map fun _ => delimiter).flatten ++ line ++ [finish])
  let advanceLeft (merging : Merging) : Tool Merging := do
    checkOrder check { merging with left := ← merging.left.advance finish } true
  let advanceRight (merging : Merging) : Tool Merging := do
    checkOrder check { merging with right := ← merging.right.advance finish } false
  let merging ← rounds id (fun (merging : Merging) => do
    let (first, second, both) := merging.counts
    match merging.left.next, merging.right.next with
    | none, none => return .finished merging
    | some a, some b =>
        if a = b then
          show_ 3 a
          return .again (← advanceRight (← advanceLeft
            { merging with counts := (first, second, both + 1) }))
        else if a < b then
          show_ 1 a
          return .again (← advanceLeft
            { merging with unpaired := true, counts := (first + 1, second, both) })
        else
          show_ 2 b
          return .again (← advanceRight
            { merging with unpaired := true, counts := (first, second + 1, both) })
    | some a, none =>
        show_ 1 a
        return .again (← advanceLeft
          { merging with unpaired := true, counts := (first + 1, second, both) })
    | none, some b =>
        show_ 2 b
        return .again (← advanceRight
          { merging with unpaired := true, counts := (first, second + 1, both) }))
    endless { left, right }
  if given.has "total" then
    let (first, second, both) := merging.counts
    put (joinWith delimiter
      [Nat.toDigits 10 first, Nat.toDigits 10 second, Nat.toDigits 10 both, "total".toList] ++
      [finish])
  if merging.warnedLeft || merging.warnedRight then
    warn "input is not in sorted order"
    return 1
  done

end Acceptance.Tools
