import Acceptance.Digest
import Acceptance.Tools.Columns

namespace Acceptance.Tools

open Tool
open Text (Bytes)

def sumFiles (paths : List String) (line : String → Bytes → String) : Tool Nat := do
  forFiles paths fun path text => say (line path (Text.toBytes text) ++ "\n")
  done

def cksumTool (arguments : List String) : Tool Nat := do
  let given ← options [.value 'a' ["algorithm"], .longFlag "untagged", .longFlag "tag"] arguments
  let named := !given.operands.isEmpty
  sumFiles (orInput given.operands) fun path content =>
    s!"{Digest.crc content} {content.length}" ++ (if named then " " ++ path else "")

def checkLine? (size : Nat) (line : List Char) : Option (String × String) :=
  let digest := line.takeWhile fun c => (Format.hexDigit? c).isSome
  match line.drop digest.length with
  | ' ' :: mark :: c :: name =>
      if digest.length = size && (mark = ' ' || mark = '*') then
        some (String.ofList digest, String.ofList (c :: name))
      else none
  | _ => none

def plural (count : Nat) (one many : String) : String :=
  if count = 1 then s!"{count} " ++ one else s!"{count} " ++ many

def checkList (given : Given) (digest : Bytes → String) (path : String) : Tool Unit := do
  let text ← contentOf path
  let size := (digest []).length
  let entries := (linesOf text).map fun line => checkLine? size line.text
  let good := entries.filterMap id
  if good.isEmpty then fault (shown path ++ ": no properly formatted checksum lines found")
  else
    let results ← good.mapM fun (expected, name) => do
      match ← readFile name with
      | .ok content =>
          let same : Bool := digest (Text.toBytes content) == expected.toLower
          if !given.has "status" && !(same && given.has "quiet") then
            say (name ++ (if same then ": OK\n" else ": FAILED\n"))
          return (some same)
      | .error cause =>
          if given.has "ignore-missing" && cause = .noEntry then return (some true)
          fileFault name cause
          if !given.has "status" then say (name ++ ": FAILED open or read\n")
          return none
    let bad := entries.length - good.length
    let failed := (results.filter (· == some false)).length
    let unread := (results.filter (·.isNone)).length
    let loud := !given.has "status"
    if bad != 0 && loud then
      warn ("WARNING: " ++ plural bad "line is improperly formatted"
        "lines are improperly formatted")
    if unread != 0 then
      setStatus 1
      if loud then
        warn ("WARNING: " ++ plural unread "listed file could not be read"
          "listed files could not be read")
    if failed != 0 then
      setStatus 1
      if loud then
        warn ("WARNING: " ++ plural failed "computed checksum did NOT match"
          "computed checksums did NOT match")

def digestTool (label : String) (digest : Bytes → String) (arguments : List String) :
    Tool Nat := do
  let given ← options
    [.flag 'b' ["binary"], .flag 'c' ["check"], .longFlag "tag", .flag 't' ["text"],
      .flag 'z' ["zero"], .longFlag "ignore-missing", .longFlag "quiet", .longFlag "status",
      .longFlag "strict", .flag 'w' ["warn"]] arguments
  let paths := orInput given.operands
  if given.has "c" then
    paths.forM (checkList given digest)
    done
  else
    sumFiles paths fun path content =>
      if given.has "tag" then label ++ " (" ++ path ++ ") = " ++ digest content
      else digest content ++ (if given.has "b" then " *" else "  ") ++ path

end Acceptance.Tools
