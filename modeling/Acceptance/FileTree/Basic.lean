import Acceptance.Text.Names

namespace Acceptance

open Text (Bytes)

-- A tree of files, directories, symbolic links and devices, as one flat list of places and what
-- is there.

-- An absolute position: the names on the way to it, the innermost one first.
abbrev Place := List String

namespace Place

def text (place : Place) : String := "/" ++ "/".intercalate place.reverse

end Place

inductive Device where
  | null
  | zero
  -- Endless zeros to read; has never room for what is written.
  | full
  -- The terminal of the session, which a process without a session cannot open.
  | terminal
  | descriptor (number : Nat)
  deriving DecidableEq, Repr

inductive Entry where
  | file (content : Bytes) (mode : Nat)
  | directory
  | link (target : String)
  | device (device : Device)
  deriving DecidableEq, Repr

namespace Entry

def plainMode : Nat := 0o644
def programMode : Nat := 0o755

def isRunnable (mode : Nat) : Bool := mode &&& 0o111 != 0

end Entry

structure FileTree where
  entries : List (Place × Entry) := []
  cwd : Place := []
  shared : List (List Place) := []
  deriving DecidableEq, Repr

namespace FileTree

def entry? (tree : FileTree) (place : Place) : Option Entry :=
  if place.isEmpty then some .directory else tree.entries.lookup place

def isDirectoryAt (tree : FileTree) (place : Place) : Bool :=
  tree.entry? place == some .directory

def replaceEntry : List (Place × Entry) → Place → Entry → List (Place × Entry)
  | [], _, _ => []
  | (place', entry') :: entries, place, entry =>
      if place' = place then (place, entry) :: entries
      else (place', entry') :: replaceEntry entries place entry

-- An entry keeps its position when it is replaced; a new one comes first.
def put (tree : FileTree) (place : Place) (entry : Entry) : FileTree :=
  { tree with
    entries := if (tree.entries.lookup place).isSome then replaceEntry tree.entries place entry
      else (place, entry) :: tree.entries }

def twins (tree : FileTree) (place : Place) : List Place :=
  (tree.shared.find? (·.contains place)).getD [place]

-- Gives the file at a place new content and a new mode, under all of its names.
def store (tree : FileTree) (place : Place) (content : Bytes) (mode : Nat) : FileTree :=
  (tree.twins place).foldl (fun tree place => tree.put place (.file content mode)) tree

def forget (gone : Place → Bool) (shared : List (List Place)) : List (List Place) :=
  (shared.map (·.filter (!gone ·))).filter (1 < ·.length)

def erase (tree : FileTree) (place : Place) : FileTree :=
  { tree with
    entries := tree.entries.filter fun (place', _) => place' != place
    shared := forget (· == place) tree.shared }

def twin (tree : FileTree) (old new : Place) : FileTree :=
  match tree.entry? old with
  | some entry =>
      { tree.put new entry with
        shared := (new :: tree.twins old) :: tree.shared.filter (!·.contains old) }
  | none => tree

-- Whether `place` lies in the directory `top`, at any depth, or is `top` itself.
def isWithin (top place : Place) : Bool := top.isSuffixOf place

def prune (tree : FileTree) (top : Place) : FileTree :=
  { tree with
    entries := tree.entries.filter fun (place, _) => !isWithin top place
    shared := forget (isWithin top) tree.shared }

-- Where a place is after everything in `old` has moved to `new`.
def moved (old new place : Place) : Place :=
  if isWithin old place then place.take (place.length - old.length) ++ new else place

-- The tree after an entry and everything below it have moved to another place.
def move (tree : FileTree) (old new : Place) : FileTree :=
  { tree with
    entries := tree.entries.map fun (place, entry) => (moved old new place, entry)
    shared := tree.shared.map (·.map (moved old new)) }

def names (tree : FileTree) (directory : Place) : List String :=
  tree.entries.filterMap fun (place, _) =>
    match place with
    | name :: above => if above = directory then some name else none
    | [] => none

end FileTree
end Acceptance
