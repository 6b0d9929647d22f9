
namespace Acceptance.Shell

structure Glyph where
  char : Char
  quoted : Bool := false
  deriving DecidableEq

namespace Pattern

def resolve : List Glyph → List Glyph
  | ⟨'\\', false⟩ :: glyph :: rest => { glyph with quoted := true } :: resolve rest
  | glyph :: rest => glyph :: resolve rest
  | [] => []

def isPlain (glyph : Glyph) (c : Char) : Bool := glyph.char == c && !glyph.quoted

def classOf (name : String) : Option (Char → Bool) :=
  match name with
  | "alnum" => some Char.isAlphanum
  | "alpha" => some Char.isAlpha
  | "blank" => some fun c => c == ' ' || c == '\t'
  | "cntrl" => some fun c => c.toNat < 32 || c.toNat == 127
  | "digit" => some Char.isDigit
  | "graph" => some fun c => 32 < c.toNat && c.toNat < 127
  | "lower" => some Char.isLower
  | "print" => some fun c => 32 ≤ c.toNat && c.toNat < 127
  | "punct" => some fun c => 32 < c.toNat && c.toNat < 127 && !c.isAlphanum
  | "space" => some fun c => c == ' ' || (9 ≤ c.toNat && c.toNat ≤ 13)
  | "upper" => some Char.isUpper
  | "xdigit" => some fun c => c.isDigit || ('a' ≤ c && c ≤ 'f') || ('A' ≤ c && c ≤ 'F')
  | _ => none

def named? (pattern : List Glyph) : Option ((Char → Bool) × List Glyph) :=
  match pattern with
  | colon :: rest =>
      if isPlain colon ':' then
        let name := (rest.takeWhile fun glyph => glyph.char.isLower).map (·.char)
        match rest.drop name.length with
        | colon :: bracket :: after =>
            if colon.char == ':' && bracket.char == ']' then
              (classOf (String.ofList name)).map fun test => (test, after)
            else none
        | _ => none
      else none
  | [] => none

-- The members of a bracket expression up to its end: those found so far and these, and what
-- follows the bracket. The first member may be a closing bracket.
def members : Nat → Bool → (Char → Bool) → List Glyph → Option ((Char → Bool) × List Glyph)
  | 0, _, _, _ => none
  | _, _, _, [] => none
  | fuel + 1, first, found, glyph :: rest =>
      if isPlain glyph ']' && !first then some (found, rest)
      else
        match if isPlain glyph '[' then named? rest else none with
        | some (test, after) => members fuel false (fun c => found c || test c) after
        | none =>
            match rest with
            | dash :: top :: after =>
                if isPlain dash '-' && !isPlain top ']' then
                  members fuel false
                    (fun c => found c || (glyph.char ≤ c && c ≤ top.char)) after
                else members fuel false (fun c => found c || c == glyph.char) rest
            | _ => members fuel false (fun c => found c || c == glyph.char) rest

def bracket? (pattern : List Glyph) : Option ((Char → Bool) × List Glyph) :=
  match pattern with
  | glyph :: rest =>
      if isPlain glyph '!' then
        (members pattern.length true (fun _ => false) rest).map fun (found, after) =>
          (fun c => !found c, after)
      else members pattern.length true (fun _ => false) pattern
  | [] => none

inductive Part where
  | any
  | one (holds : Char → Bool)

def partsOf : Nat → List Glyph → List Part
  | 0, _ => []
  | _, [] => []
  | fuel + 1, glyph :: rest =>
      if isPlain glyph '*' then .any :: partsOf fuel rest
      else if isPlain glyph '?' then .one (fun _ => true) :: partsOf fuel rest
      else
        match if isPlain glyph '[' then bracket? rest else none with
        | some (holds, after) => .one holds :: partsOf fuel after
        | none => .one (· == glyph.char) :: partsOf fuel rest

def parts (pattern : List Glyph) : List Part :=
  let pattern := resolve pattern
  partsOf pattern.length pattern

-- For every place between the parts, whether the parts before it match no text at all.
def start : Bool → List Part → List Bool
  | reached, [] => [reached]
  | reached, .any :: rest => reached :: start reached rest
  | reached, .one _ :: rest => reached :: start false rest

-- The places reached with one more character, by those reached before it. `reached` says whether
-- the first place is.
def step (c : Char) : Bool → List Part → List Bool → List Bool
  | reached, .any :: rest, before :: later =>
      let reached := reached || before
      reached :: step c reached rest later
  | reached, .one holds :: rest, before :: later => reached :: step c (before && holds c) rest later
  | reached, _, _ => [reached]

def isReached (places : List Bool) : Bool := places.getLast? == some true

def covers (pattern : List Glyph) (text : List Char) : Bool :=
  let parts := parts pattern
  isReached (text.foldl (fun places c => step c false parts places) (start true parts))

def sizesFrom (parts : List Part) : Nat → List Bool → List Char → List Nat → List Nat
  | size, places, text, found =>
      let found := if isReached places then size :: found else found
      match text with
      | [] => found
      | c :: rest =>
          if places.contains true then
            sizesFrom parts (size + 1) (step c false parts places) rest found
          else found

def sizes (parts : List Part) (text : List Char) : List Nat :=
  sizesFrom parts 0 (start true parts) text []

def trim (atEnd longest : Bool) (pattern : List Glyph) (text : List Char) : List Char :=
  let parts := parts pattern
  let found := if atEnd then sizes parts.reverse text.reverse else sizes parts text
  match if longest then found.head? else found.getLast? with
  | some size => if atEnd then text.take (text.length - size) else text.drop size
  | none => text

def isActive : List Glyph → Bool
  | [] => false
  | glyph :: rest =>
      isPlain glyph '*' || isPlain glyph '?' ||
        (isPlain glyph '[' && rest.any (isPlain · ']')) || isActive rest

end Pattern
end Acceptance.Shell
