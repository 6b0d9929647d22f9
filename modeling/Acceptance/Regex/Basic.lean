
namespace Acceptance

namespace Letters

-- Regular expressions, the texts in which matches are looked for, and what a match is.

def isSpace (c : Char) : Bool := c == ' ' || (9 ≤ c.toNat && c.toNat ≤ 13)

def isPrinted (c : Char) : Bool := 32 ≤ c.toNat && c.toNat < 127

def isPunctuation (c : Char) : Bool := 32 < c.toNat && c.toNat < 127 && !c.isAlphanum

def isWord (c : Char) : Bool := c.isAlphanum || c == '_'

def class? : String → Option (Char → Bool)
  | "alnum" => some Char.isAlphanum
  | "alpha" => some Char.isAlpha
  | "blank" => some fun c => c == ' ' || c == '\t'
  | "cntrl" => some fun c => c.toNat < 32 || c.toNat == 127
  | "digit" => some Char.isDigit
  | "graph" => some fun c => isPrinted c && c != ' '
  | "lower" => some Char.isLower
  | "print" => some isPrinted
  | "punct" => some isPunctuation
  | "space" => some isSpace
  | "upper" => some Char.isUpper
  | "xdigit" => some fun c =>
      c.isDigit || ('a' ≤ c && c ≤ 'f') || ('A' ≤ c && c ≤ 'F')
  | _ => none

end Letters

inductive Anchor where
  | lineStart
  | lineEnd
  | textStart
  | textEnd
  | wordStart
  | wordEnd
  | boundary
  | noBoundary
  | noWordBefore
  | noWordAfter
  deriving DecidableEq

inductive Regex where
  | empty
  | one (holds : Char → Bool)
  | anchor (place : Anchor)
  | sequence (first second : Regex)
  | choice (first second : Regex)
  -- At least `least` times, at most as often as the limit says.
  | many (body : Regex) (least : Nat) (most : Option Nat)
  | group (number : Nat) (body : Regex)
  | again (number : Nat)

structure Subject where
  text : Array Char
  caseless : Bool := false
  multiline : Bool := false

namespace Subject

def ofList (text : List Char) : Subject := { text := text.toArray }

def size (subject : Subject) : Nat := subject.text.size

def fits (subject : Subject) (holds : Char → Bool) (c : Char) : Bool :=
  holds c || (subject.caseless && (holds c.toLower || holds c.toUpper))

def isWordAt (subject : Subject) (index : Nat) : Bool :=
  match subject.text[index]? with
  | some c => Letters.isWord c
  | none => false

def isWordBefore (subject : Subject) (index : Nat) : Bool :=
  index != 0 && subject.isWordAt (index - 1)

def atAnchor (subject : Subject) (index : Nat) : Anchor → Bool
  | .textStart => index == 0
  | .textEnd => index == subject.size
  | .lineStart =>
      index == 0 || (subject.multiline && subject.text[index - 1]? == some '\n')
  | .lineEnd =>
      index == subject.size || (subject.multiline && subject.text[index]? == some '\n')
  | .wordStart => !subject.isWordBefore index && subject.isWordAt index
  | .wordEnd => subject.isWordBefore index && !subject.isWordAt index
  | .boundary => subject.isWordBefore index != subject.isWordAt index
  | .noBoundary => subject.isWordBefore index == subject.isWordAt index
  | .noWordBefore => !subject.isWordBefore index
  | .noWordAfter => !subject.isWordAt index

def slice (subject : Subject) (start finish : Nat) : List Char :=
  (subject.text.extract start finish).toList

end Subject

structure Span where
  number : Nat
  start : Nat
  finish : Nat

structure Match where
  start : Nat
  finish : Nat
  groups : List Span := []

namespace Match

def group? (found : Match) (number : Nat) : Option Span :=
  if number = 0 then some ⟨0, found.start, found.finish⟩
  else found.groups.find? (·.number == number)

end Match

namespace Regex

def literal (text : List Char) : Regex :=
  text.foldr (fun c rest => .sequence (.one (· == c)) rest) .empty

def hasReference : Regex → Bool
  | .empty | .one _ | .anchor _ => false
  | .sequence first second | .choice first second => first.hasReference || second.hasReference
  | .many body _ _ | .group _ body => body.hasReference
  | .again _ => true

end Regex
end Acceptance
