import Acceptance.Regex.Reader
import Acceptance.Tools.Paths
import Acceptance.Tools.Streams

namespace Acceptance.Tools

open Tool
open Kernel (rounds endless)

structure GrepStyle where
  regex : Regex
  caseless : Bool := false
  inverted : Bool := false
  counts : Bool := false
  listsWith : Bool := false
  listsWithout : Bool := false
  quiet : Bool := false
  silentErrors : Bool := false
  numbers : Bool := false
  offsets : Bool := false
  onlyMatches : Bool := false
  names : Bool := false
  asText : Bool := false
  limit : Option Nat := none
  before : Nat := 0
  after : Nat := 0
  groups : Option String := none
  finish : Char := '\n'
  nameEnd : Option Char := none
  label : String := "(standard input)"
  colored : Bool := false

namespace GrepStyle

def showsLines (style : GrepStyle) : Bool :=
  !(style.counts || style.listsWith || style.listsWithout || style.quiet)

def nameOf (style : GrepStyle) (path : String) : String :=
  if path = "-" then style.label else path

end GrepStyle

structure GrepState where
  number : Nat := 0
  offset : Nat := 0
  found : Nat := 0
  -- Lines that may be shown before a match, the last one first, with their numbers and offsets.
  recent : List (Line × Nat × Nat) := []
  pending : Nat := 0
  lastShown : Option Nat := none

def inColor (style : GrepStyle) (color : String) (text : String) : String :=
  if style.colored then "\x1b[" ++ color ++ "m\x1b[K" ++ text ++ "\x1b[m\x1b[K" else text

def lineStart (style : GrepStyle) (path : String) (mark : Char) (number offset : Nat) : String :=
  let separator := inColor style "36" mark.toString
  (if style.names then
    inColor style "35" (style.nameOf path) ++
      (match style.nameEnd with
        | some c => c.toString
        | none => separator)
    else "") ++
  (if style.numbers then inColor style "32" (toString number) ++ separator else "") ++
  (if style.offsets then inColor style "32" (toString offset) ++ separator else "")

-- The matches in a line that are not empty.
def matchesIn (style : GrepStyle) (subject : Subject) : Nat → Nat → List Match
  | 0, _ => []
  | fuel + 1, start =>
      match style.regex.search subject start with
      | none => []
      | some found =>
          if found.start = found.finish then matchesIn style subject fuel (found.start + 1)
          else found :: matchesIn style subject fuel found.finish

def subjectOf (style : GrepStyle) (line : Line) : Subject :=
  { text := line.text.toArray, caseless := style.caseless }

def highlighted (style : GrepStyle) (line : Line) : String :=
  let subject := subjectOf style line
  let found := if style.inverted then [] else matchesIn style subject (subject.size + 2) 0
  let (text, position) := found.foldl (fun (text, position) span =>
    (text ++ String.ofList (subject.slice position span.start) ++
      inColor style "01;31" (String.ofList (subject.slice span.start span.finish)), span.finish))
    ("", 0)
  text ++ String.ofList (subject.slice position subject.size)

def showSelected (style : GrepStyle) (path : String) (line : Line) (number offset : Nat) :
    Tool Unit := do
  if style.onlyMatches then
    if !style.inverted then
      let subject := subjectOf style line
      (matchesIn style subject (subject.size + 2) 0).forM fun found => do
        say (lineStart style path ':' number (offset + found.start))
        say (inColor style "01;31" (String.ofList (subject.slice found.start found.finish)))
        put [style.finish]
  else
    say (lineStart style path ':' number offset)
    if style.colored then say (highlighted style line) else put line.text
    put [style.finish]

def showContext (style : GrepStyle) (path : String) (line : Line) (number offset : Nat) :
    Tool Unit := do
  if !style.onlyMatches then
    say (lineStart style path '-' number offset)
    put (line.text ++ [style.finish])

-- A separator, if lines were left out since the last one that was shown.
def separateGroups (style : GrepStyle) (shared : Bool) (state : GrepState) (next : Nat) :
    Tool Unit := do
  match style.groups with
  | some text =>
      let gap : Bool := match state.lastShown with
        | some last => last + 1 < next
        | none => shared
      if gap then say (inColor style "36" text ++ "\n")
  | none => pure ()

def grepLine (style : GrepStyle) (path : String) (shared : Bool) (state : GrepState)
    (line : Line) : Tool GrepState := do
  let number := state.number + 1
  let offset := state.offset
  let next := { state with number, offset := offset + line.text.length + 1 }
  let selected := style.regex.isIn (subjectOf style line) != style.inverted
  if selected then
    let next := { next with found := state.found + 1 }
    if !style.showsLines then return next
    let recent := state.recent.take style.before
    let first := match recent.getLast? with
      | some (_, number, _) => number
      | none => number
    separateGroups style shared state first
    recent.reverse.forM fun (line, number, offset) => showContext style path line number offset
    showSelected style path line number offset
    return { next with recent := [], pending := style.after, lastShown := some number }
  else if style.showsLines && 0 < state.pending then
    showContext style path line number offset
    return { next with pending := state.pending - 1, lastShown := some number }
  else
    return { next with recent := (line, number, offset) :: state.recent.take (style.before - 1) }

structure GrepResult where
  state : GrepState
  binary : Bool := false

def holdsBinary (style : GrepStyle) (block : List Char) : Bool :=
  !style.asText && style.finish != '\x00' && block.contains '\x00'

-- The matches in what a descriptor gives. There is no need to go on once the answer is known.
def grepInput (style : GrepStyle) (path : String) (shared : Bool) (descriptor : Nat) :
    Tool (Except IoError GrepResult) := do
  match ← readBlock descriptor 32768 with
  | .error cause => return .error cause
  | .ok block =>
      let binary := holdsBinary style block
      let quick := style.quiet || style.listsWith || style.listsWithout ||
        (binary && style.showsLines)
      let silent := if binary && style.showsLines then { style with quiet := true } else style
      let lines : Lines := { descriptor, rest := block, ended := block.isEmpty }
      rounds (fun (_, state) => .ok { state, binary }) (fun ((lines : Lines), state) => do
        let enough := style.limit.any (· ≤ state.found)
        if quick && 0 < state.found then
          if !style.quiet then
            let _ ← ask (.seek descriptor .finish 0)
          return .finished (.ok { state, binary })
        if enough && (state.pending = 0 || !style.showsLines) then
          let _ ← ask (.seek descriptor .current (-(lines.rest.length : Int)))
          return .finished (.ok { state, binary })
        match ← nextLineTo style.finish lines with
        | (none, _) => return .finished (.ok { state, binary })
        | (some line, lines) =>
            if enough then
              let selected := style.regex.isIn (subjectOf style line) != style.inverted
              if selected then return .finished (.ok { state, binary })
              showContext style path line (state.number + 1) state.offset
              return .again (lines, { state with
                number := state.number + 1, offset := state.offset + line.text.length + 1
                pending := state.pending - 1 })
            return .again (lines, ← grepLine silent path shared state line))
        endless (lines, ({} : GrepState))

def writesInto (style : GrepStyle) (descriptor : Nat) : Tool Bool := do
  if style.quiet || style.listsWith || style.listsWithout || style.limit.any (· ≤ 1) then
    return false
  match ← ask (.inspectOpen descriptor), ← ask (.inspectOpen 1) with
  | .ok input, .ok output =>
      return output.kind == .file && input.identity == output.identity && 0 < input.size
  | _, _ => return false

structure GrepTotal where
  matched : Bool := false
  troubled : Bool := false
  shown : Bool := false

def grepFault (style : GrepStyle) (path : String) (message : String) : Tool Unit := do
  if !style.silentErrors then warn (style.nameOf path ++ ": " ++ message)

def grepDescriptor (style : GrepStyle) (path : String) (total : GrepTotal) (descriptor : Nat) :
    Tool GrepTotal := do
  if ← writesInto style descriptor then
    grepFault style path "input file is also the output"
    return { total with troubled := true }
  match ← grepInput style path total.shown descriptor with
  | .error cause =>
      grepFault style path cause.description
      return { total with troubled := true }
  | .ok result =>
      let found := result.state.found
      let name := style.nameOf path
      let nameEnd := match style.nameEnd with
        | some c => c.toString
        | none => "\n"
      if style.quiet then
        if found != 0 then quit 0
      else if style.listsWith then
        if found != 0 then say (inColor style "35" name ++ nameEnd)
      else if style.listsWithout then
        if found = 0 then say (inColor style "35" name ++ nameEnd)
      else if style.counts then
        let start := if style.names then name ++ (match style.nameEnd with
          | some c => c.toString
          | none => ":") else ""
        say (start ++ toString found ++ "\n")
      else if result.binary && found != 0 then
        say ((← get).name ++ ": " ++ name ++ ": binary file matches\n")
      let matched := if style.listsWithout then found == 0 else found != 0
      return { total with
        matched := total.matched || matched
        shown := total.shown || result.state.lastShown.isSome }

structure GrepFiles where
  deep : Bool := false
  followsLinks : Bool := false
  included : List String := []
  excluded : List String := []
  excludedDirectories : List String := []
  skipsDirectories : Bool := false

namespace GrepFiles

def takes (files : GrepFiles) (name : String) : Bool :=
  (files.included.isEmpty || files.included.any (patternCovers · name)) &&
    !files.excluded.any (patternCovers · name)

end GrepFiles

def grepPath (style : GrepStyle) (files : GrepFiles) : Nat → Bool → String → String →
    GrepTotal → Tool GrepTotal
  | 0, _, _, _, total => return total
  | fuel + 1, nested, path, name, total => do
      match ← if path = "-" then ask (.inspectOpen 0) else ask (.inspect path true) with
      | .error cause =>
          let broken ← if nested then pathExists path false else pure false
          if broken then return total
          grepFault style name cause.description
          return { total with troubled := true }
      | .ok status =>
          if status.kind = .directory then
            if files.deep then
              let own ← statusAt path false
              let isLink := match own with
                | .ok own => own.kind == .link
                | .error _ => false
              if nested && (isLink && !files.followsLinks ||
                  files.excludedDirectories.any (patternCovers · (lastName path))) then
                return total
              let names := (← namesIn path).toOption.getD []
              names.foldlM (fun total child => do
                grepPath style files fuel true (under path child)
                  (if name = "." && path = "." then child else under name child) total) total
            else if files.skipsDirectories then return total
            else
              grepFault style name IoError.isDirectory.description
              return { total with troubled := true }
          else if (nested || !files.included.isEmpty || !files.excluded.isEmpty) && path != "-" &&
              !files.takes (lastName path) then
            return total
          else
            match ← openInput path with
            | .error cause =>
                grepFault style name cause.description
                return { total with troubled := true }
            | .ok descriptor =>
                let total ← grepDescriptor style name total descriptor
                closeInput descriptor
                return total

def grepPattern (dialect : Option Regex.Dialect) (word whole : Bool) (text : List Char) :
    Tool Regex := do
  let regex ← match dialect with
    | none => pure (Regex.literal text)
    | some dialect =>
        match Regex.compile dialect text with
        | .ok compiled =>
            if dialect.extended then
              compiled.idle.forM fun mark => warn ("warning: " ++ mark ++ " at start of expression")
            pure compiled.regex
        | .error cause => die cause.text
  if whole then
    return .sequence (.anchor .textStart) (.sequence regex (.anchor .textEnd))
  else if word then
    return .sequence (.anchor .noWordBefore) (.sequence regex (.anchor .noWordAfter))
  else return regex

def patternLines (text : String) : List (List Char) :=
  (text.splitOn "\n").map String.toList

def contextCount (text : String) : Tool Nat := do
  match text.toNat? with
  | some number => return number
  | none => die (text ++ ": invalid context length argument")

def grepSwitches : List Switch := [
  .flag 'E' ["extended-regexp"], .flag 'F' ["fixed-strings", "fixed-regexp"],
  .flag 'G' ["basic-regexp"], .flag 'P' ["perl-regexp"], .value 'e' ["regexp"],
  .value 'f' ["file"], .flag 'i' ["ignore-case"], .flag 'y' [], .longFlag "no-ignore-case",
  .flag 'w' ["word-regexp"], .flag 'x' ["line-regexp"], .flag 'z' ["null-data"],
  .flag 's' ["no-messages"], .flag 'v' ["invert-match"], .value 'm' ["max-count"],
  .flag 'b' ["byte-offset"], .flag 'n' ["line-number"], .longFlag "line-buffered",
  .flag 'H' ["with-filename"], .flag 'h' ["no-filename"], .longValue "label",
  .flag 'o' ["only-matching"], .flag 'q' ["quiet", "silent"], .longValue "binary-files",
  .flag 'a' ["text"], .flag 'I' [], .value 'd' ["directories"], .value 'D' ["devices"],
  .flag 'r' ["recursive"], .flag 'R' ["dereference-recursive"], .longValue "include",
  .longValue "exclude", .longValue "exclude-from", .longValue "exclude-dir",
  .flag 'L' ["files-without-match"], .flag 'l' ["files-with-matches"],
  .value 'C' ["context"], .longAttached "color", .longAttached "colour", .flag 'c' ["count"],
  .flag 'T' ["initial-tab"], .flag 'Z' ["null"], .value 'B' ["before-context"],
  .value 'A' ["after-context"], .flag 'U' ["binary"], .flag 'u' ["unix-byte-offsets"],
  .longValue "group-separator", .longFlag "no-group-separator"]

def spreadNumber (word : String) : String :=
  match word.toList with
  | '-' :: c :: rest =>
      if (c :: rest).all Char.isDigit then "-C" ++ String.ofList (c :: rest) else word
  | _ => word

def grepTool (arguments : List String) : Tool Nat := do
  let given ← options grepSwitches (arguments.map spreadNumber)
  let fromFiles ← (given.values "f").mapM fun path => do
    match ← readFile path with
    | .ok text =>
        return (linesOf text).map fun line => line.text
    | .error cause => die (path ++ ": " ++ cause.description)
  let written := (given.values "e").flatMap patternLines
  let isGiven := given.has "e" || given.has "f"
  let (patterns, paths) ← if isGiven then pure (written ++ fromFiles.flatten, given.operands) else
    match given.operands with
    | pattern :: paths => pure (patternLines pattern, paths)
    | [] => do
        tell (← hint)
        quit 2
  let extended := given.last? ["E", "F", "G", "P"]
  let dialect : Option Regex.Dialect := match extended with
    | some "F" => none
    | some "E" | some "P" => some { extended := true, lenient := true, checksClasses := true }
    | _ => some { lenient := true, checksClasses := true }
  let regexes ← patterns.mapM (grepPattern dialect (given.has "w") (given.has "x"))
  let listing := given.last? ["l", "L"]
  if patterns.isEmpty && !given.has "v" && listing != some "L" then return 1
  let limit ← match given.value? "m" with
    | none => pure none
    | some text =>
        match text.toInt? with
        | some number => pure (if number < 0 then none else some number.toNat)
        | none => die "invalid max count"
  let context ← match given.value? "C" with
    | some text => contextCount text
    | none => pure 0
  let before ← match given.value? "B" with
    | some text => contextCount text
    | none => pure context
  let after ← match given.value? "A" with
    | some text => contextCount text
    | none => pure context
  let deep := given.has "r" || given.has "R" || given.value? "d" = some "recurse"
  let paths := if paths.isEmpty then (if deep then ["."] else ["-"]) else paths
  let names ← match given.last? ["H", "h"] with
    | some key => pure (key == "H")
    | none =>
        if 1 < paths.length then pure true
        else if deep then isDirectory (paths.headD ".") else pure false
  let hasContext := given.has "A" || given.has "B" || given.has "C"
  let style : GrepStyle :=
    { regex := regexes.foldr Regex.choice (.one fun _ => false)
      caseless := given.last? ["i", "y", "no-ignore-case"] matches some "i" | some "y"
      inverted := given.has "v", counts := given.has "c"
      listsWith := listing = some "l", listsWithout := listing = some "L"
      quiet := given.has "q", silentErrors := given.has "s", numbers := given.has "n"
      offsets := given.has "b", onlyMatches := given.has "o", names
      asText := given.has "a" || given.value? "binary-files" = some "text"
      limit, before, after
      groups := if !hasContext || given.has "no-group-separator" then none
        else some ((given.value? "group-separator").getD "--")
      finish := if given.has "z" then '\x00' else '\n'
      nameEnd := if given.has "Z" then some '\x00' else none
      label := (given.value? "label").getD "(standard input)"
      colored := (given.value? "color").orElse (fun _ => given.value? "colour") = some "always" }
  let files : GrepFiles :=
    { deep, followsLinks := given.has "R", included := given.values "include"
      excluded := given.values "exclude", excludedDirectories := given.values "exclude-dir"
      skipsDirectories := given.value? "d" = some "skip" }
  if limit = some 0 then return 1
  let total ← paths.foldlM (fun total path =>
    grepPath style files 1000 false path path total) {}
  return if total.troubled then 2 else if total.matched then 0 else 1

end Acceptance.Tools
