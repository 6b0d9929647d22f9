
namespace Acceptance

inductive Locale where
  | english
  | chinese
  deriving DecidableEq, Repr

namespace Locale

def bundled : List Locale := [.english, .chinese]

def tag : Locale → String
  | .english => "en"
  | .chinese => "zh-CN"

def ofTag? (tag : String) : Option Locale := bundled.find? (·.tag == tag)

def languagePart (tag : List Char) : List Char := tag.takeWhile fun c => c != '-' && c != '_'

-- The bundled language with exactly the requested tag, else the one named by the tag's first
-- part, else English.
def resolve (requested : String) : Locale :=
  ((ofTag? requested).or (ofTag? (String.ofList (languagePart requested.toList)))).getD .english

-- Tags are shortened on their reversed characters: the last `-` is the first one seen.
def dropExtensionMarks : List Char → List Char
  | 'x' :: '-' :: rest => dropExtensionMarks rest
  | reversed => reversed

def shorten (tag : List Char) : Option (List Char) :=
  match tag.reverse.dropWhile (· != '-') with
  | [] => none
  | _ :: rest => some (dropExtensionMarks rest).reverse

def nearestFrom : Nat → List Char → Locale
  | 0, _ => .english
  | fuel + 1, tag =>
      match ofTag? (String.ofList tag) with
      | some locale => locale
      | none =>
          match shorten tag with
          | some shorter => nearestFrom fuel shorter
          | none => .english

def nearest (tag : String) : Locale := nearestFrom (tag.length + 1) tag.toList

end Locale
end Acceptance
