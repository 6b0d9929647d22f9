import Acceptance.FileTree.Basic
import Acceptance.IoError
import Acceptance.Path

namespace Acceptance.FileTree

inductive Purpose where
  -- The thing itself, also if it is a link.
  | itself
  | target
  -- A file to write to, which may be new. A path that ends in a separator can name none, not even
  -- as the target of a link.
  | newFile
  deriving DecidableEq, Repr

inductive Found where
  | entry (place : Place)
  -- Nothing is there yet, but the directory it would be in exists. `slash` tells whether the
  -- path demands a directory by ending in a separator.
  | vacant (directory : Place) (name : String) (slash : Bool)
  deriving DecidableEq, Repr

inductive Progress where
  | arrived (found : Found)
  | failed (cause : IoError)
  -- A link was met in a directory, with parts of the path still to go.
  | detour (directory : Place) (target : String) (rest : List String)
  deriving DecidableEq, Repr

-- File names are at most this many bytes long.
def nameLimit : Nat := 255

-- Paths, including a final zero byte, are at most this many bytes long.
def pathLimit : Nat := 4096

-- A path leads through at most this many links.
def linkLimit : Nat := 40

def isFinal (rest : List String) : Bool := rest.all (· == "")

def advance (tree : FileTree) (purpose : Purpose) : Place → List String → Progress
  | current, [] => .arrived (.entry current)
  | current, part :: rest =>
      if !tree.isDirectoryAt current then .failed .notDirectory
      else if part = "" || part = "." then advance tree purpose current rest
      else if part = ".." then advance tree purpose current.tail rest
      else if purpose = .newFile && isFinal rest && !rest.isEmpty then .failed .isDirectory
      else if nameLimit < Text.size part then .failed .nameTooLong
      else
        match tree.entry? (part :: current) with
        | none =>
            if isFinal rest then .arrived (.vacant current part !rest.isEmpty)
            else .failed .noEntry
        | some (.link target) =>
            if rest.isEmpty && purpose = .itself then .arrived (.entry (part :: current))
            else .detour current target rest
        | some _ => advance tree purpose (part :: current) rest

def partsOf (path : String) : List String := (Path.parts path.toList).map String.ofList

def isAbsolute (path : String) : Bool := path.toList.head? == some '/'

-- Walks and follows links, at most `links` of them.
def resolve (tree : FileTree) (purpose : Purpose) : Nat → Place → List String →
    Except IoError Found
  | links, start, parts =>
      match advance tree purpose start parts with
      | .arrived found => .ok found
      | .failed cause => .error cause
      | .detour directory target rest =>
          match links with
          | 0 => .error .linkLoop
          | links + 1 =>
              let start := if isAbsolute target then [] else directory
              resolve tree purpose links start (partsOf target ++ rest)

-- The places that a walk looks up by name until it meets a link or comes to its end.
def lookups (tree : FileTree) : Place → List String → List Place
  | _, [] => []
  | current, part :: rest =>
      if !tree.isDirectoryAt current then []
      else if part = "" || part = "." then lookups tree current rest
      else if part = ".." then lookups tree current.tail rest
      else
        let onward := match tree.entry? (part :: current) with
          | none | some (.link _) => []
          | some _ => lookups tree (part :: current) rest
        (part :: current) :: onward

def stations (tree : FileTree) : Nat → Place → List String → List Place
  | 0, start, parts => tree.lookups start parts
  | links + 1, start, parts =>
      let onward := match tree.advance .target start parts with
        | .detour directory target rest =>
            let start := if isAbsolute target then [] else directory
            stations tree links start (partsOf target ++ rest)
        | _ => []
      tree.lookups start parts ++ onward

def stationsOf (tree : FileTree) (path : String) : List Place :=
  tree.stations linkLimit (if isAbsolute path then [] else tree.cwd) (partsOf path)

-- Where a path leads, or why it leads nowhere. It is walked part by part, so that only its parts
-- are limited in length.
def trace (tree : FileTree) (purpose : Purpose) (path : String) : Except IoError Found :=
  if path.isEmpty then .error .noEntry
  else if path.toList.contains '\x00' then .error .nulInPath
  else resolve tree purpose linkLimit (if isAbsolute path then [] else tree.cwd) (partsOf path)

-- Where a path leads that is handed over as a whole.
def find (tree : FileTree) (purpose : Purpose) (path : String) : Except IoError Found :=
  if pathLimit ≤ Text.size path && !path.toList.contains '\x00' then .error .nameTooLong
  else trace tree purpose path

end Acceptance.FileTree
