import Acceptance.Cli.Program
import Acceptance.Installation

namespace Acceptance.Main

def placeOf (path : String) : Place := ((path.splitOn "/").filter (!·.isEmpty)).reverse

-- A file counts as a program if it names its interpreter.
def fileEntry (content : Text.Bytes) : Entry :=
  .file content (if content.take 2 == [35, 33] then Entry.programMode else Entry.plainMode)

partial def loadBelow (path : String) : IO (List (Place × Entry)) := do
  let mut entries := []
  for child in ← (← IO.FS.realPath path).readDir do
    let name := path ++ "/" ++ child.fileName
    match (← child.path.symlinkMetadata).type with
    | .dir => entries := entries ++ (placeOf name, .directory) :: (← loadBelow name)
    | .symlink =>
        let target ← try pure (← IO.FS.realPath name).toString catch _ => pure name
        entries := entries ++ [(placeOf name, .link target)]
    | _ =>
        let content := (← IO.FS.readBinFile name).data.toList
        entries := entries ++ [(placeOf name, fileEntry content)]
  return entries

def above (place : Place) : List (Place × Entry) :=
  ((List.range place.length).map fun i => (place.drop i, Entry.directory)).reverse

def loadTree : IO FileTree := do
  let here := (← IO.currentDir).toString
  let found := above (placeOf here) ++ (← loadBelow here)
  let system := Installation.entries.filter fun (place, _) => !found.any (·.1 == place)
  return { entries := found ++ system, cwd := placeOf here }

def storeTree (before after : FileTree) : IO Unit := do
  for (place, entry) in before.entries do
    if (after.entry? place).isNone && entry != .directory then
      IO.FS.removeFile (Place.text place)
  for (place, entry) in after.entries do
    if before.entry? place != some entry then
      match entry with
      | .directory => IO.FS.createDirAll (Place.text place)
      | .file content _ => IO.FS.writeBinFile (Place.text place) ⟨content.toArray⟩
      | .link _ | .device _ => pure ()

def variableNames : List String :=
  ["PATH", "HOME", "LANGUAGE", "LC_ALL", "LC_MESSAGES", "LANG", "CLICOLOR_FORCE",
    "NO_COLOR"]

def loadEnvironment : IO Environment := do
  let found ← variableNames.filterMapM fun name => do
    return (← IO.getEnv name).map fun value => (name, value)
  return { settings := found }

-- Questions are only asked on a terminal; all answers are read before the first one is used.
def loadKeys (arguments : List String) : IO (Option (List Keys.Key)) := do
  match Cli.parse arguments with
  | .ok { level := .init, own, .. } =>
      let input ← IO.getStdin
      if !own.has .nonInteractive && (← input.isTty) then
        let mut typed := ""
        for _ in [0:6] do
          typed := typed ++ (← input.getLine)
        return some (Keys.typing typed)
      else return none
  | _ => return none

def exitCode : Completion → UInt32
  | .exited code => code.toUInt32
  | .signaled signal _ => (128 + signal).toUInt32
  | _ => 1

end Acceptance.Main

open Acceptance in
def main (arguments : List String) : IO UInt32 := do
  let env ← Main.loadEnvironment
  let before ← Main.loadTree
  let keys ← Main.loadKeys arguments
  let (completion, session) :=
    Cli.start (Installation.launcher env) env keys (arguments.map Text.utf8) { tree := before }
  Main.storeTree before session.tree
  (← IO.getStdout).putStr session.printedText
  (← IO.getStderr).putStr session.warnedText
  return Main.exitCode completion
