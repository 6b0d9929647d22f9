
namespace Acceptance.Text

-- Replacement of every occurrence of a pattern, found from left to right without overlap.

-- `skip` counts the characters of a found occurrence that are still to be passed over. What is
-- done is held backwards.
def replaceFrom (pattern value : List Char) : Nat → List Char → List Char → List Char
  | _, done, [] => done.reverse
  | skip + 1, done, _ :: rest => replaceFrom pattern value skip done rest
  | 0, done, c :: rest =>
      if pattern.isPrefixOf (c :: rest) then
        replaceFrom pattern value (pattern.length - 1) (value.reverseAux done) rest
      else replaceFrom pattern value 0 (c :: done) rest

def replaceAll (pattern value text : List Char) : List Char := replaceFrom pattern value 0 [] text

end Acceptance.Text
