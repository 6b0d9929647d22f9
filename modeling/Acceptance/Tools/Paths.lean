import Acceptance.Format.Escape
import Acceptance.Shell.Pattern
import Acceptance.Tools.Options

namespace Acceptance.Tools

open Tool
open Kernel (Status Kind)

-- Paths as tools see them, and tools that only work on paths.

def trimPath (path : String) : String :=
  let short := (path.toList.reverse.dropWhile (· == '/')).reverse
  if short.isEmpty && !path.isEmpty then "/" else String.ofList short

def lastName (path : String) : String :=
  let trimmed := trimPath path
  if trimmed = "/" then "/"
  else String.ofList ((trimmed.toList.reverse.takeWhile (· != '/')).reverse)

def parentOf (path : String) : String :=
  let trimmed := (trimPath path).toList.reverse
  if trimmed = ['/'] then "/"
  else
    let rest := trimmed.dropWhile (· != '/')
    if rest.isEmpty then "."
    else
      let short := rest.dropWhile (· == '/')
      if short.isEmpty then "/" else String.ofList short.reverse

def under (directory name : String) : String :=
  if directory.endsWith "/" then directory ++ name else directory ++ "/" ++ name

def statusAt (path : String) (follow : Bool) : Tool (Except IoError Status) :=
  ask (.inspect path follow)

def isDirectory (path : String) : Tool Bool := do
  match ← statusAt path true with
  | .ok status => return status.kind == .directory
  | .error _ => return false

def pathExists (path : String) (follow : Bool) : Tool Bool := do
  match ← statusAt path follow with
  | .ok _ => return true
  | .error _ => return false

def namesIn (path : String) : Tool (Except IoError (List String)) := do
  match ← ask (.list path) with
  | .ok names => return .ok (names.mergeSort fun left right => decide (left ≤ right))
  | .error cause => return .error cause

def patternCovers (pattern name : String) : Bool :=
  Shell.Pattern.covers (pattern.toList.map fun c => ⟨c, false⟩) name.toList

-- A name without an ending, unless it is nothing but the ending.
def withoutSuffix (name suffix : String) : String :=
  if name != suffix && name.endsWith suffix then (name.dropEnd suffix.length).toString else name

def basenameTool (arguments : List String) : Tool Nat := do
  let given ← optionsIn true [.flag 'a' ["multiple"], .value 's' ["suffix"], .flag 'z' ["zero"]]
    arguments
  let finish := if given.has "z" then "\x00" else "\n"
  let several := given.has "a" || given.has "s"
  match given.operands with
  | [] => missingOperand
  | operands =>
      if several then
        operands.forM fun path =>
          say (withoutSuffix (lastName path) ((given.value? "s").getD "") ++ finish)
      else
        match operands with
        | _ :: _ :: extra :: _ => extraOperand extra
        | path :: rest => say (withoutSuffix (lastName path) (rest.headD "") ++ finish)
        | [] => pure ()
      done

def dirnameTool (arguments : List String) : Tool Nat := do
  let given ← options [.flag 'z' ["zero"]] arguments
  if given.operands.isEmpty then missingOperand
  given.operands.forM fun path =>
    say (parentOf path ++ (if given.has "z" then "\x00" else "\n"))
  done

inductive Leniency where
  | nothing
  | lastPart
  | anything
  deriving DecidableEq

def resolveParts (leniency : Leniency) : Nat → Nat → String → List String →
    Tool (Except IoError String)
  | 0, _, _, _ => return .error .linkLoop
  | _, _, path, [] => return .ok (if path.isEmpty then "/" else path)
  | fuel + 1, links, path, part :: rest => do
      if part = "" || part = "." then resolveParts leniency fuel links path rest
      else if part = ".." then
        let parent := parentOf path
        resolveParts leniency fuel links (if parent = "/" || parent = "." then "" else parent) rest
      else
        let next := path ++ "/" ++ part
        match ← statusAt next false with
        | .ok status =>
            if status.kind = .link then
              match links, ← ask (.readLink next) with
              | 0, _ => return .error .linkLoop
              | links + 1, .ok target =>
                  resolveParts leniency fuel links (if target.startsWith "/" then "" else path)
                    (target.splitOn "/" ++ rest)
              | _, .error cause => return .error cause
            else if status.kind != .directory && !(rest.all (· == "")) then
              if leniency = .anything then resolveParts leniency fuel links next rest
              else return .error .notDirectory
            else resolveParts leniency fuel links next rest
        | .error cause =>
            let last := rest.all (· == "")
            if leniency = .anything || (leniency = .lastPart && last && cause = .noEntry) then
              resolveParts leniency fuel links next rest
            else return .error cause

def resolvePath (leniency : Leniency) (path : String) : Tool (Except IoError String) := do
  if path.isEmpty then return .error .noEntry
  let start ← if path.startsWith "/" then pure "" else
    match ← ask .here with
    | .ok here => pure (if here = "/" then "" else here)
    | .error _ => pure ""
  resolveParts leniency (4096 + path.length) 40 start (path.splitOn "/")

def readlinkTool (arguments : List String) : Tool Nat := do
  let given ← options
    [.flag 'f' ["canonicalize"], .flag 'e' ["canonicalize-existing"],
      .flag 'm' ["canonicalize-missing"], .flag 'n' ["no-newline"], .flag 'q' ["quiet"],
      .flag 's' ["silent"], .flag 'v' ["verbose"], .flag 'z' ["zero"]] arguments
  if given.operands.isEmpty then missingOperand
  let finish := if given.has "z" then "\x00"
    else if given.has "n" && given.operands.length = 1 then "" else "\n"
  given.operands.forM fun path => do
    let found ← match given.last? ["f", "e", "m"] with
      | some "f" => resolvePath .lastPart path
      | some "e" => resolvePath .nothing path
      | some _ => resolvePath .anything path
      | none => ask (.readLink path)
    match found with
    | .ok target => say (target ++ finish)
    | .error cause =>
        if given.has "v" then fileFault path cause else setStatus 1
  done

def realpathTool (arguments : List String) : Tool Nat := do
  let given ← options
    [.flag 'e' ["canonicalize-existing"], .flag 'm' ["canonicalize-missing"],
      .flag 's' ["no-symlinks", "strip"], .flag 'q' ["quiet"], .flag 'z' ["zero"],
      .flag 'P' ["physical"], .flag 'L' ["logical"]] arguments
  if given.operands.isEmpty then missingOperand
  given.operands.forM fun path => do
    let leniency := match given.last? ["e", "m"] with
      | some "e" => Leniency.nothing
      | some _ => .anything
      | none => .lastPart
    match ← resolvePath leniency path with
    | .ok target => say (target ++ (if given.has "z" then "\x00" else "\n"))
    | .error cause => if given.has "q" then setStatus 1 else fileFault path cause
  done

def pwdTool (arguments : List String) : Tool Nat := do
  let given ← options [.flag 'L' ["logical"], .flag 'P' ["physical"]] arguments
  if !given.operands.isEmpty then warn "ignoring non-option arguments"
  match ← ask .here with
  | .ok here =>
      let logical ← setting? "PWD"
      let same ← match logical with
        | some path =>
            if given.last? ["L", "P"] != some "L" || !path.startsWith "/" then pure false else
            match ← statusAt path true, ← statusAt "." true with
            | .ok left, .ok right => pure (left.identity == right.identity)
            | _, _ => pure false
        | none => pure false
      say ((if same then logical.getD here else here) ++ "\n")
      done
  | .error cause => die ("couldn't find directory entry in '..' with matching i-node: " ++
      cause.description)

end Acceptance.Tools
