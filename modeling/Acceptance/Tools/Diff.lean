import Acceptance.Difference
import Acceptance.Regex.Reader
import Acceptance.Shell.Pattern
import Acceptance.Tools.Paths
import Acceptance.Tools.Streams
import Std.Data.HashMap

namespace Acceptance.Tools

open Tool
open Difference (Change)

-- Comparison of two files line by line, and of directories file by file.

-- What counts as the same line.
structure LineSense where
  ignoresCase : Bool := false
  ignoresTrailing : Bool := false
  ignoresAmount : Bool := false
  ignoresAllSpace : Bool := false
  ignoresTabs : Bool := false
  ignoresReturns : Bool := false

namespace LineSense

def expandTabs : Nat → List Char → List Char
  | _, [] => []
  | column, '\t' :: rest =>
      let width := 8 - column % 8
      List.replicate width ' ' ++ expandTabs (column + width) rest
  | column, c :: rest => c :: expandTabs (column + 1) rest

def squeeze : List Char → List Char
  | [] => []
  | c :: rest =>
      if Letters.isSpace c then
        match squeeze rest with
        | ' ' :: more => ' ' :: more
        | more => ' ' :: more
      else c :: squeeze rest

def trimEnd (text : List Char) : List Char :=
  (text.reverse.dropWhile Letters.isSpace).reverse

def key (sense : LineSense) (line : Line) : List Char × Bool :=
  let text := line.text
  let text := if sense.ignoresReturns && line.ended && text.getLast? = some '\r'
    then text.dropLast else text
  let text := if sense.ignoresCase then text.map Char.toLower else text
  let text := if sense.ignoresTabs then expandTabs 0 text else text
  if sense.ignoresAllSpace then (text.filter (!Letters.isSpace ·), true)
  else if sense.ignoresAmount then (trimEnd (squeeze text), true)
  else if sense.ignoresTrailing then (trimEnd text, true)
  else (text, line.ended)

end LineSense

inductive DiffStyle where
  | normal
  | unified (context : Nat)
  | context (context : Nat)
  | commands
  | forwardCommands
  | counted
  | brief
  deriving DecidableEq

namespace DiffStyle

def context? : DiffStyle → Option Nat
  | .unified lines | .context lines => some lines
  | _ => none

end DiffStyle

structure DiffOptions where
  style : DiffStyle := .normal
  sense : LineSense := {}
  asText : Bool := false
  reportsSame : Bool := false
  deep : Bool := false
  -- Files that are missing count as empty: on both sides, or on the left one only.
  missingEmpty : Bool := false
  missingLeftEmpty : Bool := false
  ignoresBlankLines : Bool := false
  ignored : Option Regex := none
  labels : List String := []
  excluded : List String := []
  horizon : Nat := 0
  words : List String := []

structure DiffFile where
  name : String
  lines : Array Line

namespace DiffOptions

def hasIgnored (options : DiffOptions) : Bool :=
  options.ignoresBlankLines || options.ignored.isSome

def ignoresLine (options : DiffOptions) (line : Line) : Bool :=
  let blank := options.ignoresBlankLines &&
    (if options.sense.ignoresAmount || options.sense.ignoresAllSpace ||
        options.sense.ignoresTrailing then line.text.all Letters.isSpace else line.text.isEmpty)
  blank || options.ignored.any fun regex => regex.isIn (Subject.ofList line.text)

end DiffOptions

def numberLines {κ : Type} [BEq κ] [Hashable κ] (keys : List κ) (table : Std.HashMap κ Nat) :
    List Nat × Std.HashMap κ Nat :=
  let (numbers, table) := keys.foldl (fun (numbers, table) key =>
    match table[key]? with
    | some number => (number :: numbers, table)
    | none => ((table.size + 1) :: numbers, table.insert key (table.size + 1)))
    (([] : List Nat), table)
  (numbers.reverse, table)

def numberBoth (key : Line → List Char × Bool) (left right : Array Line) :
    Array Nat × Array Nat :=
  let keyOf (line : Line) : String × Bool :=
    let (text, ended) := key line
    (String.ofList text, ended)
  let (leftNumbers, table) := numberLines (left.toList.map keyOf) {}
  let (rightNumbers, _) := numberLines (right.toList.map keyOf) table
  (leftNumbers.toArray, rightNumbers.toArray)

def diffChanges (options : DiffOptions) (left right : DiffFile) : List Change :=
  let (rawLeft, rawRight) := numberBoth (fun line => (line.text, line.ended)) left.lines right.lines
  let (leftNumbers, rightNumbers) := numberBoth options.sense.key left.lines right.lines
  let horizon := max options.horizon (options.style.context?.getD 0)
  let atStart := Difference.sharedStart rawLeft rawRight - horizon
  let atEnd := Difference.sharedEnd rawLeft rawRight atStart - horizon
  Difference.changes atStart atEnd leftNumbers rightNumbers

def linesAt (file : DiffFile) (start count : Nat) : List Line :=
  (file.lines.extract start (start + count)).toList

def isIgnored (options : DiffOptions) (left right : DiffFile) (change : Change) : Bool :=
  options.hasIgnored &&
    ((linesAt left change.left change.deleted).all options.ignoresLine &&
      (linesAt right change.right change.inserted).all options.ignoresLine)

def putMarked (mark : String) (line : Line) : Tool Unit := do
  put (mark.toList ++ line.text ++ ['\n'])
  if !line.ended then say "\\ No newline at end of file\n"

def rangeText (start count : Nat) : String :=
  if count ≤ 1 then toString (start + count) else s!"{start + 1},{start + count}"

def changeLetter (change : Change) : String :=
  if change.deleted = 0 then "a" else if change.inserted = 0 then "d" else "c"

def putNormal (left right : DiffFile) (change : Change) : Tool Unit := do
  say (rangeText change.left change.deleted ++ changeLetter change ++
    rangeText change.right change.inserted ++ "\n")
  (linesAt left change.left change.deleted).forM (putMarked "< ")
  if change.deleted != 0 && change.inserted != 0 then say "---\n"
  (linesAt right change.right change.inserted).forM (putMarked "> ")

-- Text for an editor: a line with nothing but a dot has to be disguised.
def putEditText (lines : List Line) : Tool Unit := do
  lines.forM fun line => putLine line.text
  say ".\n"

def putCommand (forward : Bool) (right : DiffFile) (change : Change) : Tool Unit := do
  let letter := changeLetter change
  let range := rangeText change.left change.deleted
  if forward then say (letter ++ range.replace "," " " ++ "\n")
  else say (range ++ letter ++ "\n")
  if change.inserted != 0 then putEditText (linesAt right change.right change.inserted)

def putCounted (right : DiffFile) (change : Change) : Tool Unit := do
  if change.deleted != 0 then say s!"d{change.left + 1} {change.deleted}\n"
  if change.inserted != 0 then
    say s!"a{change.left + change.deleted} {change.inserted}\n"
    (linesAt right change.right change.inserted).forM fun line => put line.whole

structure Hunk where
  changes : List Change
  left : Nat
  leftEnd : Nat
  right : Nat
  rightEnd : Nat

-- Changes that lie close together. Those that do not count have to lie closer.
def hunksOf (context : Nat) (ignored : Change → Bool) : List Change → List Change →
    List (List Change)
  | [], current => if current.isEmpty then [] else [current.reverse]
  | change :: rest, [] => hunksOf context ignored rest [change]
  | change :: rest, previous :: before =>
      let gap := change.left - (previous.left + previous.deleted)
      let limit := if ignored previous || ignored change then context else 2 * context + 1
      if gap < limit then hunksOf context ignored rest (change :: previous :: before)
      else (previous :: before).reverse :: hunksOf context ignored rest [change]

def hunkOf (context : Nat) (left right : DiffFile) (changes : List Change) : Hunk :=
  let first := changes.headD ⟨0, 0, 0, 0⟩
  let last := changes.getLastD ⟨0, 0, 0, 0⟩
  { changes, left := first.left - context, right := first.right - context
    leftEnd := min left.lines.size (last.left + last.deleted + context)
    rightEnd := min right.lines.size (last.right + last.inserted + context) }

def unifiedRange (start finish : Nat) : String :=
  let count := finish - start
  if count = 0 then s!"{start},0"
  else if count = 1 then toString (start + 1)
  else s!"{start + 1},{count}"

def putUnified (left right : DiffFile) (hunk : Hunk) : Tool Unit := do
  say ("@@ -" ++ unifiedRange hunk.left hunk.leftEnd ++ " +" ++
    unifiedRange hunk.right hunk.rightEnd ++ " @@\n")
  let finish ← hunk.changes.foldlM (fun position change => do
    (linesAt left position (change.left - position)).forM (putMarked " ")
    (linesAt left change.left change.deleted).forM (putMarked "-")
    (linesAt right change.right change.inserted).forM (putMarked "+")
    return change.left + change.deleted) hunk.left
  (linesAt left finish (hunk.leftEnd - finish)).forM (putMarked " ")

def contextRange (start finish : Nat) : String :=
  if finish - start ≤ 1 then toString finish else s!"{start + 1},{finish}"

def putContextSide (file : DiffFile) (start finish : Nat) (mark : String)
    (part : Change → Nat × Nat × Bool) (changes : List Change) : Tool Unit := do
  let position ← changes.foldlM (fun position change => do
    let (begin_, count, alone) := part change
    (linesAt file position (begin_ - position)).forM (putMarked "  ")
    (linesAt file begin_ count).forM (putMarked (if alone then mark else "! "))
    return begin_ + count) start
  (linesAt file position (finish - position)).forM (putMarked "  ")

def putContext (left right : DiffFile) (hunk : Hunk) : Tool Unit := do
  say ("***************\n*** " ++ contextRange hunk.left hunk.leftEnd ++ " ****\n")
  if hunk.changes.any (·.deleted != 0) then
    putContextSide left hunk.left hunk.leftEnd "- "
      (fun change => (change.left, change.deleted, change.inserted == 0)) hunk.changes
  say ("--- " ++ contextRange hunk.right hunk.rightEnd ++ " ----\n")
  if hunk.changes.any (·.inserted != 0) then
    putContextSide right hunk.right hunk.rightEnd "+ "
      (fun change => (change.right, change.inserted, change.deleted == 0)) hunk.changes

-- Times are not kept; all files are as old as can be.
def fileTime : String := "1970-01-01 00:00:00.000000000 +0000"

def putHeader (options : DiffOptions) (first second : String) (left right : DiffFile) :
    Tool Unit := do
  let label (index : Nat) (file : DiffFile) : String :=
    (options.labels[index]?).getD (file.name ++ "\t" ++ fileTime)
  say (first ++ " " ++ label 0 left ++ "\n" ++ second ++ " " ++ label 1 right ++ "\n")

def putHunks (options : DiffOptions) (context : Nat) (left right : DiffFile)
    (changes : List Change) (show_ : Hunk → Tool Unit) : Tool Unit :=
  let ignored := isIgnored options left right
  (hunksOf context ignored changes []).forM fun changes => do
    if !changes.all ignored then show_ (hunkOf context left right changes)

def putChanges (options : DiffOptions) (left right : DiffFile) (changes : List Change) :
    Tool Unit := do
  let counted := changes.filter fun change => !isIgnored options left right change
  match options.style with
  | .normal => counted.forM (putNormal left right)
  | .commands => counted.reverse.forM (putCommand false right)
  | .forwardCommands => counted.forM (putCommand true right)
  | .counted => counted.forM (putCounted right)
  | .brief => say ("Files " ++ left.name ++ " and " ++ right.name ++ " differ\n")
  | .unified context =>
      putHeader options "---" "+++" left right
      putHunks options context left right changes (putUnified left right)
  | .context context =>
      putHeader options "***" "---" left right
      putHunks options context left right changes (putContext left right)

def isBinary (text : List Char) : Bool := (text.take 4096).contains '\x00'

def announceFiles (options : DiffOptions) (nested : Bool) (left right : String) : Tool Unit := do
  if nested then
    say (" ".intercalate ("diff" :: options.words.map shown ++ [shown left, shown right]) ++ "\n")

def diffTexts (options : DiffOptions) (nested : Bool) (left right : String)
    (leftText rightText : List Char) : Tool Nat := do
  let same : Tool Nat := do
    if options.reportsSame then say ("Files " ++ left ++ " and " ++ right ++ " are identical\n")
    return 0
  if leftText == rightText then same
  else if !options.asText && (isBinary leftText || isBinary rightText) then
    if options.style = .brief then say ("Files " ++ left ++ " and " ++ right ++ " differ\n")
    else
      say ("Binary files " ++ left ++ " and " ++ right ++ " differ\n")
    return 1
  else
    let leftFile : DiffFile := { name := left, lines := (linesOf leftText).toArray }
    let rightFile : DiffFile := { name := right, lines := (linesOf rightText).toArray }
    let changes := diffChanges options leftFile rightFile
    if changes.all (isIgnored options leftFile rightFile) then same
    else
      if options.style != .brief then announceFiles options nested left right
      putChanges options leftFile rightFile changes
      return 1

def diffText (path : String) (present : Bool) : Tool (List Char) := do
  if !present then return []
  match ← readFile path with
  | .ok text => return text
  | .error cause =>
      fault (shown path ++ ": " ++ cause.description)
      quit 2

def kindName (status : Kernel.Status) : String :=
  match status.kind with
  | .directory => "a directory"
  | .file => if status.size = 0 then "a regular empty file" else "a regular file"
  | .link => "a symbolic link"
  | .pipe => "a fifo"
  | .device => "a character special file"

def isExcluded (options : DiffOptions) (name : String) : Bool :=
  options.excluded.any fun pattern =>
    Shell.Pattern.covers (pattern.toList.map fun c => ⟨c, false⟩) name.toList

def diffStatus (path : String) : Tool (Except IoError Kernel.Status) :=
  if path = "-" then ask (.inspectOpen 0) else ask (.inspect path true)

def worst (left right : Nat) : Nat := max left right

def diffPaths (options : DiffOptions) : Nat → Bool → String → String → Tool Nat
  | 0, _, _, _ => return 2
  | fuel + 1, nested, left, right => do
      let leftStatus ← diffStatus left
      let rightStatus ← diffStatus right
      let missing (status : Except IoError Kernel.Status) (other : Bool) : Bool :=
        match status with
        | .error .noEntry => options.missingEmpty || (other && options.missingLeftEmpty)
        | _ => false
      let leftMissing := missing leftStatus true
      let rightMissing := missing rightStatus false
      let leftFault := match leftStatus with
        | .error cause => if leftMissing && !rightMissing then none else some cause
        | .ok _ => none
      let rightFault := match rightStatus with
        | .error cause => if rightMissing && !leftMissing then none else some cause
        | .ok _ => none
      if let some cause := leftFault then fault (shown left ++ ": " ++ cause.description)
      if let some cause := rightFault then fault (shown right ++ ": " ++ cause.description)
      if leftFault.isSome || rightFault.isSome then return 2
      let isDirectory (status : Except IoError Kernel.Status) : Bool :=
        match status with
        | .ok status => status.kind == .directory
        | .error _ => false
      match isDirectory leftStatus, isDirectory rightStatus with
      | false, false =>
          match leftStatus, rightStatus with
          | .ok leftStatus, .ok rightStatus =>
              if leftStatus.identity = rightStatus.identity && leftStatus.kind = .file &&
                  left != "-" && right != "-" then
                diffTexts options nested left right [] []
              else if left = "-" && right = "-" then return 0
              else
                let leftText ← diffText left true
                let rightText ← diffText right true
                diffTexts options nested left right leftText rightText
          | _, _ =>
              let leftText ← diffText left !leftMissing
              let rightText ← diffText right !rightMissing
              diffTexts options nested left right leftText rightText
      | true, true =>
          if nested && !options.deep then
            say ("Common subdirectories: " ++ left ++ " and " ++ right ++ "\n")
            return 0
          else
            let leftNames := (← namesIn left).toOption.getD []
            let rightNames := (← namesIn right).toOption.getD []
            let names := (leftNames ++ rightNames.filter (!leftNames.contains ·)).mergeSort
              fun left right => decide (left ≤ right)
            let names := names.filter (!isExcluded options ·)
            names.foldlM (fun status name => do
              let hasLeft := leftNames.contains name
              let hasRight := rightNames.contains name
              let result ← if hasLeft && hasRight || options.missingEmpty ||
                    (hasRight && options.missingLeftEmpty) then
                  diffPaths options fuel true (under left name) (under right name)
                else do
                  say ("Only in " ++ (if hasLeft then left else right) ++ ": " ++ name ++ "\n")
                  pure 1
              return worst status result) 0
      | leftIs, _ =>
          if nested then
            match leftStatus, rightStatus with
            | .ok leftStatus, .ok rightStatus =>
                say ("File " ++ left ++ " is " ++ kindName leftStatus ++ " while file " ++ right ++
                  " is " ++ kindName rightStatus ++ "\n")
                return 1
            | _, _ => return 1
          else
            let (left, right) := if leftIs then (under left (lastName right), right)
              else (left, under right (lastName left))
            diffPaths options fuel false left right

def diffSwitches : List Switch := [
  .flag 'a' ["text"], .flag 'b' ["ignore-space-change"], .flag 'B' ["ignore-blank-lines"],
  .flag 'c' [], .value 'C' [], .longAttached "context", .flag 'd' ["minimal"],
  .value 'D' ["ifdef"], .flag 'e' ["ed"], .flag 'E' ["ignore-tab-expansion"],
  .flag 'f' ["forward-ed"], .value 'F' ["show-function-line"], .flag 'H' ["speed-large-files"],
  .flag 'i' ["ignore-case"], .value 'I' ["ignore-matching-lines"], .flag 'l' ["paginate"],
  .value 'L' ["label"], .flag 'n' ["rcs"], .flag 'N' ["new-file"],
  .flag 'p' ["show-c-function"], .flag 'P' [], .longFlag "unidirectional-new-file",
  .flag 'q' ["brief"], .flag 'r' ["recursive"], .flag 's' ["report-identical-files"],
  .value 'S' ["starting-file"], .flag 't' ["expand-tabs"], .flag 'T' ["initial-tab"],
  .flag 'u' [], .value 'U' [], .longAttached "unified", .flag 'v' ["version"],
  .flag 'w' ["ignore-all-space"], .value 'W' ["width"], .value 'x' ["exclude"],
  .value 'X' ["exclude-from"], .flag 'y' ["side-by-side"], .flag 'Z' ["ignore-trailing-space"],
  .longFlag "normal", .longValue "horizon-lines", .longFlag "strip-trailing-cr",
  .longFlag "suppress-common-lines", .longAttached "color", .longFlag "no-dereference",
  .longValue "from-file", .longValue "to-file", .longFlag "left-column",
  .longFlag "suppress-blank-empty", .longValue "tabsize", .longFlag "no-ignore-file-name-case",
  .longFlag "ignore-file-name-case"]

def splitDigits (word : String) : List String :=
  match word.toList with
  | '-' :: c :: rest =>
      if c = '-' then [word]
      else if c.isDigit then
        let digits := (c :: rest).takeWhile Char.isDigit
        let more := rest.drop (digits.length - 1)
        ("--digits=" ++ String.ofList digits) ::
          (if more.isEmpty then [] else ["-" ++ String.ofList more])
      else if (c = 'u' || c = 'c') && rest.head?.any Char.isDigit then
        let digits := rest.takeWhile Char.isDigit
        let more := rest.drop digits.length
        ["-" ++ c.toString, "--digits=" ++ String.ofList digits] ++
          (if more.isEmpty then [] else ["-" ++ String.ofList more])
      else [word]
  | _ => [word]

def contextLength (text : String) : Tool Nat := do
  if text.isEmpty then return 3
  match text.toNat? with
  | some number => return number
  | none => misused ("invalid context length " ++ quote text)

def diffStyle (given : Given) : Tool DiffStyle := do
  let digits := (given.value? "digits").bind String.toNat?
  let styles ← given.options.filterMapM fun (key, value) => do
    match key with
    | "u" => return some (DiffStyle.unified (digits.getD 3))
    | "c" => return some (DiffStyle.context (digits.getD 3))
    | "U" | "unified" =>
        let length ← contextLength value
        return some (.unified length)
    | "C" | "context" =>
        let length ← contextLength value
        return some (.context length)
    | "e" => return some .commands
    | "f" => return some .forwardCommands
    | "n" => return some .counted
    | "normal" => return some .normal
    | _ => return none
  let kind (style : DiffStyle) : Nat := match style with
    | .unified _ => 1
    | .context _ => 2
    | .commands => 3
    | .forwardCommands => 4
    | .counted => 5
    | _ => 0
  if (styles.map kind).eraseDups.length ≤ 1 then
    return if given.has "q" then .brief else styles.getLastD .normal
  misused "conflicting output style options"

def diffTool (arguments : List String) : Tool Nat := do
  let given ← options (.longValue "digits" :: diffSwitches) (arguments.flatMap splitDigits)
  let style ← diffStyle given
  let ignored ← (given.values "I").mapM fun text => do
    match Regex.compile {} text.toList with
    | .ok compiled => return compiled.regex
    | .error cause => die (text ++ ": " ++ cause.text)
  let horizon ← match given.value? "horizon-lines" with
    | some text => contextLength text
    | none => pure 0
  let words := arguments.filter fun word => word.startsWith "-" && word != "-" && word != "--"
  let options : DiffOptions :=
    { style, horizon, words
      sense :=
        { ignoresCase := given.has "i", ignoresTrailing := given.has "Z"
          ignoresAmount := given.has "b", ignoresAllSpace := given.has "w"
          ignoresTabs := given.has "E", ignoresReturns := given.has "strip-trailing-cr" }
      asText := given.has "a", reportsSame := given.has "s", deep := given.has "r"
      missingEmpty := given.has "N"
      missingLeftEmpty := given.has "P" || given.has "unidirectional-new-file"
      ignoresBlankLines := given.has "B"
      ignored := if ignored.isEmpty then none else
        some (ignored.foldl .choice (.one fun _ => false))
      labels := given.values "L", excluded := given.values "x" }
  let pairs ← match given.value? "from-file", given.value? "to-file" with
    | some source, _ => pure (given.operands.map fun path => (source, path))
    | none, some target => pure (given.operands.map fun path => (path, target))
    | none, none =>
        match given.operands with
        | [] => misused ("missing operand after " ++ quote (arguments.getLastD (← get).name))
        | [only] => misused ("missing operand after " ++ quote only)
        | [left, right] => pure [(left, right)]
        | _ :: _ :: extra :: _ => misused ("extra operand " ++ quote extra)
  pairs.foldlM (fun status (left, right) => do
    return worst status (← diffPaths options 200 false left right)) 0

end Acceptance.Tools
