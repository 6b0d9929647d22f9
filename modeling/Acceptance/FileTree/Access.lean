import Acceptance.FileTree.Walk

namespace Acceptance.FileTree

open Text (Bytes)

-- Operations on the tree by textual path, with the errors the operating system gives for them.

def locate (tree : FileTree) (path : String) : Except IoError Place := do
  match ← tree.find .target path with
  | .entry place => return place
  | .vacant _ _ _ => .error .noEntry

def status (tree : FileTree) (path : String) : Except IoError Entry := do
  let place ← tree.locate path
  match tree.entry? place with
  | some entry => return entry
  | none => .error .noEntry

def pathExists (tree : FileTree) (path : String) : Bool := (tree.status path).isOk

def isDirectory (tree : FileTree) (path : String) : Bool :=
  match tree.status path with
  | .ok .directory => true
  | _ => false

def isFile (tree : FileTree) (path : String) : Bool :=
  match tree.status path with
  | .ok (.file _ _) => true
  | _ => false

def isTooDeep (place : Place) : Bool := pathLimit ≤ Text.size place.text

-- The absolute path without links and without `.` and `..` parts. It is built up part by part,
-- and every part is looked up by the absolute path so far.
def canonical (tree : FileTree) (path : String) : Except IoError String := do
  if !path.toList.contains '\x00' && (tree.stationsOf path).any isTooDeep then
    .error .nameTooLong
  else
    match ← tree.trace .target path with
    | .entry place => return place.text
    | .vacant _ _ _ => .error .noEntry

def displayPath (tree : FileTree) (path : String) : String :=
  match tree.canonical path with
  | .ok text => text
  | .error _ => path

-- The content of a file. A directory can be opened but not read. Of the devices only the empty
-- one ever ends; the others give nothing here.
def read (tree : FileTree) (path : String) : Except IoError Bytes := do
  match ← tree.status path with
  | .file content _ => return content
  | .device .terminal => .error .noDevice
  | .device _ => return []
  | _ => .error .isDirectory

def readText (tree : FileTree) (path : String) : Except IoError String := do
  match Text.ofUtf8? (← tree.read path) with
  | some text => return text
  | none => .error .invalidText

def sameContent (tree : FileTree) (left right : String) : Bool :=
  match tree.read left, tree.read right with
  | .ok left, .ok right => left == right
  | _, _ => false

def trimSlashes (path : String) : String × Bool :=
  let trimmed := (path.toList.reverse.dropWhile (· == '/')).reverse
  (String.ofList trimmed, trimmed.length != path.length)

-- Opens a file for writing and empties it, or makes a new one. A device stays as it is.
def create (tree : FileTree) (path : String) : Except IoError (Place × FileTree) := do
  match ← tree.find .newFile path with
  | .vacant directory name _ =>
      let place := name :: directory
      return (place, tree.put place (.file [] Entry.plainMode))
  | .entry place =>
      match tree.entry? place with
      | some (.file _ mode) => return (place, tree.store place [] mode)
      | some (.device .terminal) => .error .noDevice
      | some (.device _) => return (place, tree)
      | _ => .error .isDirectory

def splice (content : Bytes) (offset : Nat) (bytes : Bytes) : Bytes :=
  let before := content.take offset
  before ++ List.replicate (offset - before.length) 0 ++ bytes ++
    content.drop (offset + bytes.length)

def writeAt (tree : FileTree) (place : Place) (offset : Nat) (bytes : Bytes) : FileTree :=
  match tree.entry? place with
  | some (.file content mode) => tree.store place (splice content offset bytes) mode
  | _ => tree

-- Whether a device takes no more bytes.
def isFull (tree : FileTree) (place : Place) : Bool := tree.entry? place == some (.device .full)

def write (tree : FileTree) (path : String) (content : Bytes) : Except IoError FileTree := do
  let (place, tree) ← tree.create path
  if tree.isFull place && !content.isEmpty then .error .noSpace
  else return tree.writeAt place 0 content

-- Removes a file or a link, never a directory.
def remove (tree : FileTree) (path : String) : Except IoError FileTree := do
  let (trimmed, slash) := trimSlashes path
  match ← tree.find .itself (if trimmed.isEmpty then path else trimmed) with
  | .vacant _ _ _ => .error .noEntry
  | .entry place =>
      if tree.isDirectoryAt place then .error .isDirectory
      else if slash then .error .notDirectory
      else return tree.erase place

-- Removes what an earlier run may have left; that nothing is there is no error.
def removeStale (tree : FileTree) (path : String) : Except IoError FileTree :=
  match tree.remove path with
  | .error cause => if cause = .noEntry then .ok tree else .error cause
  | .ok tree => .ok tree

def makeDirectory (tree : FileTree) (path : String) : Except IoError FileTree := do
  match ← tree.find .itself (trimSlashes path).1 with
  | .vacant directory name _ => return tree.put (name :: directory) .directory
  | .entry _ => .error .alreadyExists

-- Makes a directory and those it lies in, as far as they are missing. `parents` lists the
-- paths from the innermost one outward.
def makeParents (tree : FileTree) : List String → Except IoError FileTree
  | [] => .ok tree
  | path :: outer =>
      if path.isEmpty || tree.isDirectory path then .ok tree
      else
        match tree.makeDirectory path with
        | .ok tree => .ok tree
        | .error cause =>
            if cause = .noEntry then do
              let tree ← makeParents tree outer
              if tree.isDirectory path then return tree else tree.makeDirectory path
            else .error cause

-- A path and its parents, as many as there are characters at most.
def ancestors : Nat → String → List String
  | 0, path => [path]
  | fuel + 1, path =>
      match Path.parent? path with
      | some parent => path :: ancestors fuel parent
      | none => [path]

def makeDirectories (tree : FileTree) (path : String) : Except IoError FileTree :=
  tree.makeParents (ancestors path.length path)

def makeLink (tree : FileTree) (target path : String) : Except IoError FileTree := do
  match ← tree.find .itself path with
  | .vacant directory name slash =>
      if slash then .error .noEntry else return tree.put (name :: directory) (.link target)
  | .entry _ => .error .alreadyExists

def list (tree : FileTree) (path : String) : Except IoError (List String) := do
  let place ← tree.locate path
  if tree.isDirectoryAt place then return tree.names place else .error .notDirectory

def setMode (tree : FileTree) (path : String) (mode : Nat) : FileTree :=
  match tree.locate path with
  | .ok place =>
      match tree.entry? place with
      | some (.file content _) => tree.store place content mode
      | _ => tree
  | .error _ => tree

-- Removes whatever is at a path, a directory with everything below it. A link is removed and
-- not followed.
def removeAll (tree : FileTree) (path : String) : Except IoError FileTree := do
  match ← tree.find .itself path with
  | .entry place => return tree.prune place
  | .vacant _ _ _ => .error .noEntry

def listing (tree : FileTree) (top : Place) : List String :=
  let paths := tree.entries.filterMap fun (place, entry) =>
    if isWithin top place && place != top then
      let path := "/".intercalate (place.take (place.length - top.length)).reverse
      some (if entry = .directory then path ++ "/" else path)
    else none
  paths.mergeSort fun left right => decide (left ≤ right)

end Acceptance.FileTree
