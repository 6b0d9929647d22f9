import Acceptance.Shell.Pattern

namespace Acceptance.Shell

-- Fields: what a word comes to is cut at separators where it came from a parameter or a command.

inductive Piece where
  | glyph (glyph : Glyph)
  -- A quotation mark. It makes a field of its own even if nothing else does.
  | mark
  | boundary
  deriving DecidableEq

inductive Cutting where
  | whole
  | atSeparators
  | atBoundaries
  deriving DecidableEq

structure Stretch where
  pieces : List Piece
  cutting : Cutting := .whole
  deriving DecidableEq

namespace Fields

structure Progress where
  fields : List (List Piece) := []
  current : List Piece := []
  blank : Bool := false
  left : Option Nat := none
  kept : Option Nat := none
  cutting : Cutting := .whole
  afterBoundaries : Bool := false

def isBlank (c : Char) : Bool := c == ' ' || c == '\t' || c == '\n'

def separates (separators : List Char) (cutting : Cutting) : Piece → Bool × Bool
  | .boundary => (true, true)
  | .mark => (false, false)
  | .glyph glyph =>
      if cutting = .atSeparators && separators.contains glyph.char then (true, isBlank glyph.char)
      else (false, false)

def add (progress : Progress) (piece : Piece) : Progress :=
  { progress with current := piece :: progress.current }

def finish (progress : Progress) : Progress :=
  { progress with fields := progress.current.reverse :: progress.fields, current := [] }

-- A piece of the last field, which takes everything but blanks at its end.
def extend (progress : Progress) (piece : Piece) (separator blank : Bool) : Progress :=
  if blank then
    add { progress with kept := progress.kept.or (some progress.current.length) } piece
  else
    let kept := if separator && progress.blank then progress.kept else none
    add { progress with kept, blank := false } piece

def step (separators : List Char) (progress : Progress) (piece : Piece) : Progress :=
  let (separator, blank) := separates separators progress.cutting piece
  if progress.left = some 0 then extend progress piece separator blank
  else if progress.blank then
    if separator then { progress with current := [], blank }
    else { progress with current := [piece], blank := false }
  else if separator then
    let bare := progress.afterBoundaries || progress.cutting == .atBoundaries
    let blank := !bare && blank
    if progress.current.isEmpty && blank then progress
    else
      match progress.left with
      | some 1 =>
          add { progress with left := some 0, blank, kept := some progress.current.length } piece
      | left => finish { progress with left := left.map (· - 1), blank }
  else add { progress with blank := false } piece

def stretch (separators : List Char) (progress : Progress) (stretch : Stretch) : Progress :=
  if stretch.cutting = .whole then
    { progress with current := stretch.pieces.reverse ++ progress.current }
  else
    let progress := { progress with
      cutting := stretch.cutting, blank := false
      afterBoundaries := progress.cutting == .atBoundaries }
    stretch.pieces.foldl (step separators) progress

-- The fields of what a word comes to, at most as many as given.
def split (separators : List Char) (limit : Option Nat) (stretches : List Stretch) :
    List (List Piece) :=
  let progress := stretches.foldl (stretch separators) { left := limit }
  let current := progress.current.reverse
  let current := match progress.kept with
    | some count => current.take count
    | none => current
  if progress.cutting = .atBoundaries then (current :: progress.fields).reverse
  else if current.isEmpty then progress.fields.reverse
  else (current :: progress.fields).reverse

end Fields

namespace Piece

def glyphs (pieces : List Piece) : List Glyph :=
  pieces.filterMap fun piece =>
    match piece with
    | .glyph found => some found
    | _ => none

def text (pieces : List Piece) : String := String.ofList ((glyphs pieces).map (·.char))

def ofText (quoted : Bool) (text : String) : List Piece :=
  text.toList.map fun c => .glyph ⟨c, quoted⟩

end Piece
end Acceptance.Shell
