
namespace Acceptance.Path

-- An absolute path replaces the base, an empty base gives way to the path, and otherwise one
-- separator stands between the two.
def join (base path : String) : String :=
  if path.toList.head? = some '/' || base.isEmpty then path
  else if base.toList.getLast? = some '/' then base ++ path
  else base ++ "/" ++ path

-- The functions below see a path from its end: the first character is its last one.
def dropTrivialEnd : List Char → List Char
  | ['/'] => ['/']
  | '/' :: rest => dropTrivialEnd rest
  | '.' :: '/' :: rest => dropTrivialEnd ('/' :: rest)
  | reversed => reversed
termination_by reversed => reversed.length

-- The path without its last part: separators and `.` parts at the end count for nothing. The
-- root and the empty path have no parent; a single relative part has the empty path as parent.
def parent? (path : String) : Option String :=
  match dropTrivialEnd path.toList.reverse with
  | [] | ['/'] => none
  | reversed => some (String.ofList (dropTrivialEnd (reversed.dropWhile (· != '/'))).reverse)

def parts (path : List Char) : List (List Char) := path.splitOn '/'

end Acceptance.Path
