
namespace Acceptance.Difference

-- The differences between two lists of lines: which lines have to go and which have to come so
-- that one list becomes the other.

structure Marks where
  left : Array Bool
  right : Array Bool

namespace Marks

def deleteAll (marks : Marks) (indexes : List Nat) : Marks :=
  { marks with left := indexes.foldl (fun left index => left.setIfInBounds index true) marks.left }

def insertAll (marks : Marks) (indexes : List Nat) : Marks :=
  { marks with
    right := indexes.foldl (fun right index => right.setIfInBounds index true) marks.right }

end Marks

structure Box where
  left : Nat
  leftEnd : Nat
  right : Nat
  rightEnd : Nat

structure Pair where
  left : Array Nat
  right : Array Nat

namespace Pair

def same (pair : Pair) (x y : Nat) : Bool :=
  match pair.left[x]?, pair.right[y]? with
  | some left, some right => left == right
  | _, _ => false

def slideDown (pair : Pair) (box : Box) : Nat → Nat → Nat → Nat × Nat
  | 0, x, y => (x, y)
  | fuel + 1, x, y =>
      if x < box.leftEnd && y < box.rightEnd && pair.same x y then
        pair.slideDown box fuel (x + 1) (y + 1)
      else (x, y)

def slideUp (pair : Pair) (box : Box) : Nat → Nat → Nat → Nat × Nat
  | 0, x, y => (x, y)
  | fuel + 1, x, y =>
      if box.left < x && box.right < y && pair.same (x - 1) (y - 1) then
        pair.slideUp box fuel (x - 1) (y - 1)
      else (x, y)

end Pair

-- The state of a search from both corners: how far each diagonal has been followed. Diagonals are
-- numbered by the difference of the two positions.
structure Search where
  down : Array Int
  up : Array Int
  shift : Int
  downLow : Int
  downHigh : Int
  upLow : Int
  upHigh : Int

namespace Search

def getDown (search : Search) (diagonal : Int) : Int :=
  search.down.getD (diagonal + search.shift).toNat (-1)

def getUp (search : Search) (diagonal : Int) : Int :=
  search.up.getD (diagonal + search.shift).toNat 0

def setDown (search : Search) (diagonal value : Int) : Search :=
  { search with down := search.down.setIfInBounds (diagonal + search.shift).toNat value }

def setUp (search : Search) (diagonal value : Int) : Search :=
  { search with up := search.up.setIfInBounds (diagonal + search.shift).toNat value }

-- Follows the diagonals from the upper corner, the highest first, until both ways meet.
def followDown (pair : Pair) (box : Box) (odd : Bool) : Nat → Int → Search →
    Option (Nat × Nat) × Search
  | 0, _, search => (none, search)
  | fuel + 1, diagonal, search =>
      if diagonal < search.downLow then (none, search)
      else
        let low := search.getDown (diagonal - 1)
        let high := search.getDown (diagonal + 1)
        let x := if low < high then high else low + 1
        let (x, y) := pair.slideDown box (box.leftEnd + 1) x.toNat (x - diagonal).toNat
        let search := search.setDown diagonal x
        if odd && search.upLow ≤ diagonal && diagonal ≤ search.upHigh &&
            search.getUp diagonal ≤ x then (some (x, y), search)
        else followDown pair box odd fuel (diagonal - 2) search

def followUp (pair : Pair) (box : Box) (odd : Bool) : Nat → Int → Search →
    Option (Nat × Nat) × Search
  | 0, _, search => (none, search)
  | fuel + 1, diagonal, search =>
      if diagonal < search.upLow then (none, search)
      else
        let low := search.getUp (diagonal - 1)
        let high := search.getUp (diagonal + 1)
        let x := if low < high then low else high - 1
        let (x, y) := pair.slideUp box (box.leftEnd + 1) x.toNat (x - diagonal).toNat
        let search := search.setUp diagonal x
        if !odd && search.downLow ≤ diagonal && diagonal ≤ search.downHigh &&
            (x : Int) ≤ search.getDown diagonal then (some (x, y), search)
        else followUp pair box odd fuel (diagonal - 2) search

def beyond : Int := Nat.pow 2 62

def widenDown (least most : Int) (search : Search) : Search :=
  let search := if least < search.downLow then
      ({ search with downLow := search.downLow - 1 }).setDown (search.downLow - 2) (-1)
    else { search with downLow := search.downLow + 1 }
  if search.downHigh < most then
    ({ search with downHigh := search.downHigh + 1 }).setDown (search.downHigh + 2) (-1)
  else { search with downHigh := search.downHigh - 1 }

def widenUp (least most : Int) (search : Search) : Search :=
  let search := if least < search.upLow then
      ({ search with upLow := search.upLow - 1 }).setUp (search.upLow - 2) beyond
    else { search with upLow := search.upLow + 1 }
  if search.upHigh < most then
    ({ search with upHigh := search.upHigh + 1 }).setUp (search.upHigh + 2) beyond
  else { search with upHigh := search.upHigh - 1 }

def meet (pair : Pair) (box : Box) (odd : Bool) (least most : Int) : Nat → Search →
    Option (Nat × Nat)
  | 0, _ => none
  | fuel + 1, search =>
      let search := search.widenDown least most
      match search.followDown pair box odd (fuel + 2) search.downHigh with
      | (some middle, _) => some middle
      | (none, search) =>
          let search := search.widenUp least most
          match search.followUp pair box odd (fuel + 2) search.upHigh with
          | (some middle, _) => some middle
          | (none, search) => meet pair box odd least most fuel search

end Search

def middle (pair : Pair) (box : Box) : Nat × Nat :=
  let least : Int := (box.left : Int) - box.rightEnd
  let most : Int := (box.leftEnd : Int) - box.right
  let start : Int := (box.left : Int) - box.right
  let finish : Int := (box.leftEnd : Int) - box.rightEnd
  let room := box.leftEnd + box.rightEnd + 4
  let search : Search :=
    { down := Array.replicate room (-1), up := Array.replicate room Search.beyond
      shift := box.rightEnd + 1, downLow := start, downHigh := start, upLow := finish
      upHigh := finish }
  let search := (search.setDown start box.left).setUp finish box.leftEnd
  let odd := (start - finish) % 2 != 0
  (search.meet pair box odd least most room).getD (box.left, box.right)

def range (start finish : Nat) : List Nat := (List.range (finish - start)).map (· + start)

def compareBox (pair : Pair) : Nat → Box → Marks → Marks
  | 0, box, marks =>
      (marks.deleteAll (range box.left box.leftEnd)).insertAll (range box.right box.rightEnd)
  | fuel + 1, box, marks =>
      let (left, right) := pair.slideDown box (box.leftEnd + 1) box.left box.right
      let box := { box with left, right }
      let (leftEnd, rightEnd) := pair.slideUp box (box.leftEnd + 1) box.leftEnd box.rightEnd
      let box := { box with leftEnd, rightEnd }
      if box.left = box.leftEnd then marks.insertAll (range box.right box.rightEnd)
      else if box.right = box.rightEnd then marks.deleteAll (range box.left box.leftEnd)
      else
        let (x, y) := middle pair box
        let marks := compareBox pair fuel { box with leftEnd := x, rightEnd := y } marks
        compareBox pair fuel { box with left := x, right := y } marks

inductive Discard where
  | no
  | yes
  -- Only if its surroundings are left out, too.
  | perhaps
  deriving DecidableEq

def countsOf (lines : Array Nat) : Array Nat :=
  lines.foldl (fun counts line => counts.modify line (· + 1))
    (Array.replicate (lines.foldl max 0 + 1) 0)

def roughRoot (factor : Nat) : Nat → Nat → Nat
  | 0, _ => factor
  | fuel + 1, number => if number / 4 = 0 then factor else roughRoot (factor * 2) fuel (number / 4)

def firstGuess (lines others : Array Nat) : Array Discard :=
  let many := roughRoot 5 64 (lines.size / 64)
  let counts := countsOf others
  lines.map fun line =>
    let count := counts.getD line 0
    if count = 0 then .yes else if many < count then .perhaps else .no

def isPerhaps (discards : Array Discard) (index : Nat) : Bool :=
  discards.getD index .no == .perhaps

-- Cancels doubtful lines at an end of a run, from `index` on in one direction, up to three sure
-- lines in a row or to the first sure one after eight lines.
def cancelEnd (position : Nat → Nat) (length : Nat) : Nat → Nat → Nat → Array Discard →
    Array Discard
  | 0, _, _, discards => discards
  | fuel + 1, index, sure, discards =>
      if length ≤ index then discards
      else
        let place := position index
        match discards.getD place .no with
        | .yes =>
            if 8 ≤ index || sure + 1 = 3 then discards
            else cancelEnd position length fuel (index + 1) (sure + 1) discards
        | .perhaps =>
            cancelEnd position length fuel (index + 1) 0 (discards.setIfInBounds place .no)
        | .no => cancelEnd position length fuel (index + 1) 0 discards

-- The lengths of runs of doubtful lines decide whether they stay.
def cancelLong (start length least : Nat) : Nat → Nat → Array Discard → Array Discard
  | 0, _, discards => discards
  | fuel + 1, index, discards =>
      if length ≤ index then discards
      else if isPerhaps discards (start + index) then
        let run := ((List.range (length - index)).takeWhile fun offset =>
          isPerhaps discards (start + index + offset)).length
        let discards := if least ≤ run then
            (range (start + index) (start + index + run)).foldl
              (fun discards place => discards.setIfInBounds place .no) discards
          else discards
        cancelLong start length least fuel (index + run) discards
      else cancelLong start length least fuel (index + 1) discards

def settleRun (discards : Array Discard) (start : Nat) : Nat × Array Discard :=
  let run := ((List.range (discards.size - start)).takeWhile fun offset =>
    discards.getD (start + offset) .no != .no).length
  -- Doubtful lines at the end do not belong to it.
  let trailing := ((List.range run).takeWhile fun offset =>
    isPerhaps discards (start + run - 1 - offset)).length
  let length := run - trailing
  let finish := start + length
  let discards := (range finish (start + run)).foldl
    (fun discards place => discards.setIfInBounds place .no) discards
  let doubtful := ((range start finish).filter (isPerhaps discards)).length
  if length < doubtful * 4 then
    (start + 1, (range start finish).foldl (fun discards place =>
      if isPerhaps discards place then discards.setIfInBounds place .no else discards) discards)
  else
    let least := roughRoot 1 64 (length / 4) + 1
    let discards := cancelLong start length least (length + 1) 0 discards
    let discards := cancelEnd (start + ·) length (length + 1) 0 0 discards
    let discards := cancelEnd (finish - 1 - ·) length (length + 1) 0 0 discards
    (finish, discards)

def settleFrom : Nat → Nat → Array Discard → Array Discard
  | 0, _, discards => discards
  | fuel + 1, index, discards =>
      if discards.size ≤ index then discards
      else
        match discards.getD index .no with
        | .no => settleFrom fuel (index + 1) discards
        | .perhaps => settleFrom fuel (index + 1) (discards.setIfInBounds index .no)
        | .yes =>
            let (next, discards) := settleRun discards index
            settleFrom fuel (max next (index + 1)) discards

def discardsOf (lines others : Array Nat) : Array Bool :=
  (settleFrom (lines.size + 1) 0 (firstGuess lines others)).map (· == .yes)

structure Moving where
  marks : Array Bool
  start : Nat
  finish : Nat
  other : Nat
  facing : Option Nat := none

def markedAt (marks : Array Bool) (index : Nat) : Bool := marks.getD index false

def markedBefore (marks : Array Bool) (index : Nat) : Bool :=
  index != 0 && markedAt marks (index - 1)

-- The first position from `index` on that is not marked.
def skipMarked (marks : Array Bool) : Nat → Nat → Nat
  | 0, index => index
  | fuel + 1, index => if markedAt marks index then skipMarked marks fuel (index + 1) else index

def skipMarkedBack (marks : Array Bool) : Nat → Nat → Nat
  | 0, index => index
  | fuel + 1, index =>
      if markedBefore marks index then skipMarkedBack marks fuel (index - 1) else index

namespace Moving

def back (moving : Moving) (others : Array Bool) : Moving :=
  let marks := (moving.marks.setIfInBounds (moving.start - 1) true).setIfInBounds
    (moving.finish - 1) false
  { moving with
    marks, finish := moving.finish - 1, start := moving.start - 1
    other := skipMarkedBack others (others.size + 1) moving.other - 1 }

def backMerged (moving : Moving) (others : Array Bool) : Moving :=
  let moved := moving.back others
  { moved with start := skipMarkedBack moved.marks (moved.marks.size + 1) moved.start }

-- Back as long as the line before equals the last line of the change.
def backAll (lines : Array Nat) (others : Array Bool) : Nat → Moving → Moving
  | 0, moving => moving
  | fuel + 1, moving =>
      if moving.start != 0 && lines[moving.start - 1]? == lines[moving.finish - 1]? then
        backAll lines others fuel (moving.backMerged others)
      else moving

-- Forward as long as the line behind equals the first line of the change.
def forwardAll (lines : Array Nat) (others : Array Bool) : Nat → Moving → Moving
  | 0, moving => moving
  | fuel + 1, moving =>
      if moving.finish < lines.size && lines[moving.start]? == lines[moving.finish]? then
        let marks := (moving.marks.setIfInBounds moving.start false).setIfInBounds
          moving.finish true
        let finish := skipMarked marks (marks.size + 1) (moving.finish + 1)
        let other := skipMarked others (others.size + 1) (moving.other + 1)
        let facing := if other != moving.other + 1 then some finish else moving.facing
        forwardAll lines others fuel
          { marks, start := moving.start + 1, finish, other, facing }
      else moving

-- Back and forward until the change grows no more.
def settle (lines : Array Nat) (others : Array Bool) : Nat → Moving → Moving
  | 0, moving => moving
  | fuel + 1, moving =>
      let length := moving.finish - moving.start
      let moved := backAll lines others (lines.size + 1) moving
      let facing := if markedBefore others moved.other then some moved.finish else none
      let moved := forwardAll lines others (lines.size + 1) { moved with facing }
      if moved.finish - moved.start = length then moved else settle lines others fuel moved

def face (others : Array Bool) (goal : Nat) : Nat → Moving → Moving
  | 0, moving => moving
  | fuel + 1, moving =>
      if goal < moving.finish then face others goal fuel (moving.back others) else moving

end Moving

def moveChanges (lines : Array Nat) (others : Array Bool) : Nat → Nat → Nat → Array Bool →
    Array Bool
  | 0, _, _, marks => marks
  | fuel + 1, index, other, marks =>
      if lines.size ≤ index then marks
      else if !markedAt marks index then
        moveChanges lines others fuel (index + 1)
          (skipMarked others (others.size + 1) other + 1) marks
      else
        let finish := skipMarked marks (marks.size + 1) index
        let other := skipMarked others (others.size + 1) other
        let moving : Moving := { marks, start := index, finish, other }
        let moving := moving.settle lines others (lines.size + 1)
        let moving := match moving.facing with
          | some goal => moving.face others goal (lines.size + 1)
          | none => moving
        moveChanges lines others fuel moving.finish moving.other moving.marks

-- The lines that are not left out, with their positions.
def kept (lines : Array Nat) (discards : Array Bool) : Array Nat × Array Nat :=
  let indexes := (Array.range lines.size).filter fun index => !markedAt discards index
  (indexes.map fun index => lines.getD index 0, indexes)

def spread (places : Array Nat) (marks discards : Array Bool) : Array Bool :=
  (places.zip marks).foldl (fun all (index, mark) =>
    if mark then all.setIfInBounds index true else all) discards

def marksOf (left right : Array Nat) : Marks :=
  let leftDiscards := discardsOf left right
  let rightDiscards := discardsOf right left
  let (leftKept, leftPlaces) := kept left leftDiscards
  let (rightKept, rightPlaces) := kept right rightDiscards
  let box : Box := { left := 0, leftEnd := leftKept.size, right := 0, rightEnd := rightKept.size }
  let empty : Marks :=
    { left := Array.replicate leftKept.size false, right := Array.replicate rightKept.size false }
  let found := compareBox ⟨leftKept, rightKept⟩ (leftKept.size + rightKept.size + 1) box empty
  let leftMarks := spread leftPlaces found.left leftDiscards
  let rightMarks := spread rightPlaces found.right rightDiscards
  let leftMarks := moveChanges left rightMarks (left.size + right.size + 2) 0 0 leftMarks
  let rightMarks := moveChanges right leftMarks (left.size + right.size + 2) 0 0 rightMarks
  { left := leftMarks, right := rightMarks }

structure Change where
  left : Nat
  deleted : Nat
  right : Nat
  inserted : Nat

def changesFrom (marks : Marks) : Nat → Nat → Nat → List Change
  | 0, _, _ => []
  | fuel + 1, left, right =>
      if marks.left.size ≤ left && marks.right.size ≤ right then []
      else
        let leftEnd := skipMarked marks.left (marks.left.size + 1) left
        let rightEnd := skipMarked marks.right (marks.right.size + 1) right
        if left = leftEnd && right = rightEnd then changesFrom marks fuel (left + 1) (right + 1)
        else
          { left, deleted := leftEnd - left, right, inserted := rightEnd - right } ::
            changesFrom marks fuel leftEnd rightEnd

def Change.shift (change : Change) (offset : Nat) : Change :=
  { change with left := change.left + offset, right := change.right + offset }

-- The changes between two lists, of which some lines at the start and at the end are known to be
-- the same and are not looked at.
def changes (atStart atEnd : Nat) (left right : Array Nat) : List Change :=
  let left := left.extract atStart (left.size - atEnd)
  let right := right.extract atStart (right.size - atEnd)
  (changesFrom (marksOf left right) (left.size + right.size + 2) 0 0).map (·.shift atStart)

def sharedStart (left right : Array Nat) : Nat :=
  ((List.range (min left.size right.size)).takeWhile fun index =>
    left[index]? == right[index]?).length

def sharedEnd (left right : Array Nat) (atStart : Nat) : Nat :=
  ((List.range (min left.size right.size - atStart)).takeWhile fun index =>
    left[left.size - 1 - index]? == right[right.size - 1 - index]?).length

end Acceptance.Difference
