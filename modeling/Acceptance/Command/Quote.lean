
namespace Acceptance.Command

-- Writing a word so that splitting gives it back.

inductive Style where
  | bare
  | single
  | double
  deriving DecidableEq, Repr

-- The ways of writing that are still open for a piece.
structure Styles where
  bare : Bool
  single : Bool
  double : Bool
  deriving DecidableEq, Repr

def isBare (c : Char) : Bool := c.isAlphanum || "+-./:@]_".toList.contains c

namespace Styles

def holding (c : Char) : Styles where
  bare := isBare c
  single := c != '\'' && c != '^' && c != '\\'
  double := c != '`' && c != '$' && c != '!' && c != '^'

def opening (c : Char) : Styles := if c = '^' then ⟨false, true, false⟩ else holding c

def meet (left right : Styles) : Styles :=
  ⟨left.bare && right.bare, left.single && right.single, left.double && right.double⟩

def isNone (styles : Styles) : Bool := !(styles.bare || styles.single || styles.double)

def best (styles : Styles) : Style :=
  if styles.bare then .bare else if styles.single then .single else .double

end Styles

def escapeInDouble (c : Char) : List Char :=
  if c = '"' || c = '\\' then ['\\', c] else [c]

def Style.write : Style → List Char → List Char
  | .bare, piece => piece
  | .single, piece => '\'' :: (piece ++ ['\''])
  | .double, piece => '"' :: (piece.flatMap escapeInDouble ++ ['"'])

-- A piece ends in front of the first character that leaves no way of writing it. The piece and
-- the pieces before it are held backwards.
def pieces (done : List (Style × List Char)) (styles : Styles) (piece : List Char) :
    List Char → List (Style × List Char)
  | [] => ((styles.best, piece.reverse) :: done).reverse
  | c :: rest =>
      let narrowed := styles.meet (.holding c)
      if narrowed.isNone then
        pieces ((styles.best, piece.reverse) :: done) (.opening c) [c] rest
      else pieces done narrowed (c :: piece) rest

def quote : List Char → List Char
  | [] => ['\'', '\'']
  | c :: rest => (pieces [] (.opening c) [c] rest).flatMap fun (style, piece) => style.write piece

end Acceptance.Command
