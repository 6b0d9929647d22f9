import Acceptance.Format.Size
import Acceptance.Tools.Options

namespace Acceptance.Tools

open Tool
open Kernel (rounds endless)

-- Tools that pass on what they read, all of it or parts, and count it.

def inputName (path : String) : String := if path = "-" then "standard input" else path

def visible (c : Char) : List Char :=
  let low (code : Nat) : List Char :=
    if code < 32 then ['^', Char.ofNat (code + 64)]
    else if code = 127 then ['^', '?']
    else [Char.ofNat code]
  if c.toNat < 128 then low c.toNat else 'M' :: '-' :: low (c.toNat - 128)

structure CatStyle where
  numbered : Bool := false
  numbersBlank : Bool := true
  squeezes : Bool := false
  showsEnds : Bool := false
  showsTabs : Bool := false
  showsOthers : Bool := false

namespace CatStyle

def isPlain (style : CatStyle) : Bool :=
  !(style.numbered || style.squeezes || style.showsEnds || style.showsTabs || style.showsOthers)

def character (style : CatStyle) (c : Char) : List Char :=
  if c = '\t' then (if style.showsTabs then ['^', 'I'] else [c])
  else if style.showsOthers then visible c else [c]

end CatStyle

structure Shown where
  number : Nat := 0
  atStart : Bool := true
  blanks : Nat := 0

def padNumber (width number : Nat) : List Char :=
  let digits := Nat.toDigits 10 number
  List.replicate (width - digits.length) ' ' ++ digits

def showLine (style : CatStyle) (shown : Shown) (line : Line) : Tool Shown := do
  let blank := shown.atStart && line.text.isEmpty && line.ended
  if style.squeezes && blank && 1 ≤ shown.blanks then
    return { shown with blanks := shown.blanks + 1 }
  let counts := style.numbered && shown.atStart && (style.numbersBlank || !blank)
  let number := if counts then shown.number + 1 else shown.number
  if counts then put (padNumber 6 number ++ ['\t'])
  put (line.text.flatMap style.character ++
    (if line.ended then (if style.showsEnds then ['$', '\n'] else ['\n']) else []))
  return { number, atStart := line.ended, blanks := if blank then shown.blanks + 1 else 0 }

def passOn (path : String) (descriptor : Nat) : Tool Unit :=
  rounds (fun _ => ()) (fun _ => do
    match ← readBlock descriptor 131072 with
    | .ok block =>
        if block.isEmpty then return .finished ()
        match ← writeTo 1 block with
        | .ok _ => return .again ()
        | .error cause => die ("write error: " ++ cause.description)
    | .error cause =>
        fileFault path cause
        return .finished ()) endless ()

def feedsItself (descriptor : Nat) : Tool Bool := do
  match ← ask (.inspectOpen descriptor), ← ask (.inspectOpen 1) with
  | .ok input, .ok output =>
      if output.kind != .file || input.identity != output.identity then return false
      match ← ask (.seek descriptor .current 0) with
      | .ok offset =>
          if output.appends then return offset < output.size
          match ← ask (.seek 1 .current 0) with
          | .ok target => return offset < target
          | .error _ => return false
      | .error _ => return false
  | _, _ => return false

def catTool (arguments : List String) : Tool Nat := do
  let given ← options
    [.flag 'A' ["show-all"], .flag 'b' ["number-nonblank"], .flag 'e' [],
      .flag 'E' ["show-ends"], .flag 'n' ["number"], .flag 's' ["squeeze-blank"], .flag 't' [],
      .flag 'T' ["show-tabs"], .flag 'u' [], .flag 'v' ["show-nonprinting"]] arguments
  let any (keys : List String) : Bool := keys.any given.has
  let style : CatStyle :=
    { numbered := any ["n", "b"], numbersBlank := !given.has "b", squeezes := given.has "s"
      showsEnds := any ["A", "e", "E"], showsTabs := any ["A", "t", "T"]
      showsOthers := any ["A", "e", "t", "v"] }
  let _ ← rounds (·.2) (fun (paths, shown) => do
    match paths with
    | [] => return .finished shown
    | path :: paths =>
        match ← openInput path with
        | .error cause =>
            fileFault path cause
            return .again (paths, shown)
        | .ok descriptor =>
            if ← feedsItself descriptor then
              fault (Tools.Tool.shown path ++ ": input file is output file")
              closeInput descriptor
              return .again (paths, shown)
            let shown ← if style.isPlain then do
                passOn path descriptor
                pure shown
              else do
                match ← ask (.inspectOpen descriptor) with
                | .ok status => if status.kind = .directory then fileFault path .isDirectory
                | .error _ => pure ()
                foldLines descriptor '\n' shown (showLine style)
            closeInput descriptor
            return .again (paths, shown)) (given.operands.length + 2)
    (orInput given.operands, ({} : Shown))
  done

-- An amount of lines or bytes: so many, all but so many, or from a position on.
inductive Amount where
  | first (count : Nat)
  | allBut (count : Nat)
  | since (position : Nat)

def copyCount (descriptor count : Nat) : Tool (Except IoError Unit) :=
  rounds (fun _ => .ok ()) (fun (left : Nat) => do
    if left = 0 then return .finished (.ok ())
    match ← readBlock descriptor (min left 8192) with
    | .ok block =>
        if block.isEmpty then return .finished (.ok ())
        put block
        return .again (left - block.length)
    | .error cause => return .finished (.error cause)) endless count

def takeLines (finish : Char) : Nat → List Char → List Char × Nat
  | 0, _ => ([], 0)
  | count, [] => ([], count)
  | count + 1, c :: rest =>
      let (text, left) := takeLines finish (if c = finish then count else count + 1) rest
      (c :: text, left)

-- Copies lines up to a count, and gives back what was read too much.
def copyLines (finish : Char) (descriptor count : Nat) : Tool (Except IoError Unit) :=
  rounds (fun _ => .ok ()) (fun (left : Nat) => do
    if left = 0 then return .finished (.ok ())
    match ← readBlock descriptor 8192 with
    | .ok block =>
        if block.isEmpty then return .finished (.ok ())
        let (text, left) := takeLines finish left block
        put text
        if left = 0 && text.length < block.length then
          let _ ← ask (.seek descriptor .current ((text.length : Int) - block.length))
        return .again left
    | .error cause => return .finished (.error cause)) endless count

def withoutLastLines (finish : Char) (count : Nat) (text : List Char) : List Char :=
  let lines := splitLines (text.length + 1) finish text
  let kept := lines.take (lines.length - count)
  kept.flatMap fun line => if line.ended then line.text ++ [finish] else line.text

-- Copies all but the end, and gives back what was kept for that.
def copyAllBut (bytes : Bool) (finish : Char) (descriptor count : Nat) :
    Tool (Except IoError Unit) := do
  match ← readAll descriptor with
  | .error cause => return .error cause
  | .ok text =>
      let kept := if bytes then text.take (text.length - count)
        else withoutLastLines finish count text
      put kept
      let _ ← ask (.seek descriptor .current ((kept.length : Int) - text.length))
      return .ok ()

def oldAmount (word : String) : Option (List String) :=
  match word.toList with
  | '-' :: rest =>
      let digits := rest.takeWhile Char.isDigit
      let letters := rest.drop digits.length
      if digits.isEmpty || !letters.all (fun c => "bckmlqvz".toList.contains c) then none
      else
        let key := if letters.any fun c => "bckm".toList.contains c then "-c" else "-n"
        let unit := letters.filter fun c => "bkm".toList.contains c
        some ((key ++ String.ofList (digits ++ unit)) ::
          (letters.filter fun c => "qvz".toList.contains c).map fun c => "-" ++ c.toString)
  | _ => none

def countLimit : Nat := UInt64.size

def countOf (what word : String) (digits : List Char) : Tool Nat := do
  match Format.size? digits with
  | some count =>
      if count < countLimit then return count
      die ("invalid number of " ++ what ++ ": " ++ quote word ++
        ": Value too large for defined data type")
  | none => die ("invalid number of " ++ what ++ ": " ++ quote word)

-- The heading of a file, with an empty line before it unless it is the first.
def putHeading (first : Bool) (path : String) : Tool Unit :=
  say ((if first then "" else "\n") ++ "==> " ++ inputName path ++ " <==\n")

def forHeaded (headings : Bool) (paths : List String)
    (action : Nat → Tool (Except IoError Unit)) : Tool Unit := do
  let _ ← rounds (fun _ => ()) (fun (paths, first) => do
    match paths with
    | [] => return .finished ()
    | path :: paths =>
        match ← openInput path with
        | .error cause =>
            fault ("cannot open " ++ quote path ++ " for reading: " ++ cause.description)
            return .again (paths, first)
        | .ok descriptor =>
            if headings then putHeading first path
            match ← action descriptor with
            | .ok _ => pure ()
            | .error cause =>
                fault ("error reading " ++ quote (inputName path) ++ ": " ++ cause.description)
            closeInput descriptor
            return .again (paths, false)) (paths.length + 1) (paths, true)

def headTool (arguments : List String) : Tool Nat := do
  let arguments := match arguments with
    | first :: rest => (oldAmount first).getD [first] ++ rest
    | [] => []
  let given ← options
    [.value 'n' ["lines"], .value 'c' ["bytes"], .flag 'q' ["quiet", "silent"],
      .flag 'v' ["verbose"], .flag 'z' ["zero-terminated"]] arguments
  let bytes := given.last? ["n", "c"] = some "c"
  let word := (given.value? (if bytes then "c" else "n")).getD "10"
  let what := if bytes then "bytes" else "lines"
  let amount ← match word.toList with
    | '-' :: digits => Amount.allBut <$> countOf what (String.ofList digits) digits
    | '+' :: digits => Amount.first <$> countOf what word digits
    | digits => Amount.first <$> countOf what word digits
  let finish := if given.has "z" then '\x00' else '\n'
  let paths := orInput given.operands
  let headings := match given.last? ["q", "v"] with
    | some key => key == "v"
    | none => 1 < paths.length
  forHeaded headings paths fun descriptor =>
    match amount with
    | .first count | .since count =>
        if bytes then copyCount descriptor count else copyLines finish descriptor count
    | .allBut count => copyAllBut bytes finish descriptor count
  done

def lastLines (finish : Char) (count : Nat) (text : List Char) : List Char :=
  let lines := splitLines (text.length + 1) finish text
  (lines.drop (lines.length - count)).flatMap fun line =>
    if line.ended then line.text ++ [finish] else line.text

def dropLines (finish : Char) : Nat → List Char → List Char
  | 0, text => text
  | _, [] => []
  | count + 1, c :: rest => dropLines finish (if c = finish then count else count + 1) rest

def tailTool (arguments : List String) : Tool Nat := do
  let arguments := match arguments with
    | first :: rest =>
        match first.toList with
        | '+' :: digits =>
            if !digits.isEmpty && digits.all Char.isDigit then ("-n" ++ first) :: rest
            else arguments
        | _ => (oldAmount first).getD [first] ++ rest
    | [] => []
  let given ← options
    [.value 'n' ["lines"], .value 'c' ["bytes"], .flag 'q' ["quiet", "silent"],
      .flag 'v' ["verbose"], .flag 'z' ["zero-terminated"], .attached 'f' ["follow"],
      .flag 'F' [], .longFlag "retry", .value 's' ["sleep-interval"], .longValue "pid"] arguments
  let bytes := given.last? ["n", "c"] = some "c"
  let word := (given.value? (if bytes then "c" else "n")).getD "10"
  let what := if bytes then "bytes" else "lines"
  let amount ← match word.toList with
    | '+' :: digits => Amount.since <$> countOf what word digits
    | '-' :: digits => Amount.first <$> countOf what word digits
    | digits => Amount.first <$> countOf what word digits
  let finish := if given.has "z" then '\x00' else '\n'
  let paths := orInput given.operands
  let follows := given.has "f" || given.has "F"
  if amount matches .first 0 && !follows then return 0
  let headings := match given.last? ["q", "v"] with
    | some key => key == "v"
    | none => 1 < paths.length
  forHeaded headings paths fun descriptor => do
    match ← readAll descriptor with
    | .error cause => return .error cause
    | .ok text =>
        put (match amount with
          | .since position =>
              if bytes then text.drop (position - 1) else dropLines finish (position - 1) text
          | .first count | .allBut count =>
              if bytes then text.drop (text.length - count) else lastLines finish count text)
        return .ok ()
  if follows then
    flush
    ask (.rest 1000000000000000)
  done

def writeEach (block : List Char) : List (String × Nat) → Tool (List (String × Nat))
  | [] => return []
  | (path, descriptor) :: rest => do
      match ← writeTo descriptor block with
      | .ok _ => return (path, descriptor) :: (← writeEach block rest)
      | .error cause =>
          fault (shown path ++ ": " ++ cause.description)
          writeEach block rest

def teeTool (arguments : List String) : Tool Nat := do
  let given ← options [.flag 'a' ["append"], .flag 'i' ["ignore-interrupts"], .flag 'p' [],
    .longAttached "output-error"] arguments
  let opened ← given.operands.filterMapM fun path => do
    match ← ask (.open path (if given.has "a" then .forAppending else .forWriting)) with
    | .ok descriptor => return some (path, descriptor)
    | .error cause =>
        fileFault path cause
        return none
  rounds (fun _ => ()) (fun (outputs : List (String × Nat)) => do
    match ← readBlock 0 8192 with
    | .ok block =>
        if block.isEmpty || outputs.isEmpty then return .finished ()
        return .again (← writeEach block outputs)
    | .error cause =>
        fault ("read error: " ++ cause.description)
        return .finished ()) endless (("standard output", 1) :: opened)
  done

structure Counts where
  lines : Nat := 0
  words : Nat := 0
  bytes : Nat := 0
  longest : Nat := 0
  column : Nat := 0
  inWord : Bool := false

namespace Counts

def isGap (c : Char) : Bool := c == ' ' || (9 ≤ c.toNat && c.toNat ≤ 13)

def isPrinted (c : Char) : Bool := 32 ≤ c.toNat && c.toNat < 127

def addColumn (counts : Counts) (c : Char) : Counts :=
  match c with
  | '\n' | '\r' | '\x0c' =>
      { counts with longest := max counts.longest counts.column, column := 0 }
  | '\t' => { counts with column := counts.column / 8 * 8 + 8 }
  | c => if isPrinted c then { counts with column := counts.column + 1 } else counts

def add (counts : Counts) (c : Char) : Counts :=
  let counts := counts.addColumn c
  let starts := !isGap c && isPrinted c && !counts.inWord
  { counts with
    lines := if c = '\n' then counts.lines + 1 else counts.lines
    words := if starts then counts.words + 1 else counts.words
    bytes := counts.bytes + 1
    inWord := if isGap c then false else counts.inWord || isPrinted c }

def finish (counts : Counts) : Counts :=
  { counts with longest := max counts.longest counts.column }

def plus (left right : Counts) : Counts :=
  { lines := left.lines + right.lines, words := left.words + right.words
    bytes := left.bytes + right.bytes, longest := max left.longest right.longest }

end Counts

def countInput (path : String) (descriptor : Nat) : Tool Counts :=
  rounds Counts.finish (fun (counts : Counts) => do
    match ← readBlock descriptor 16384 with
    | .ok block =>
        if block.isEmpty then return .finished counts.finish
        return .again (block.foldl Counts.add counts)
    | .error cause =>
        fileFault path cause
        return .finished counts.finish) endless {}

def countsWidth (paths : List String) : Tool Nat := do
  let statuses ← paths.mapM fun path =>
    if path = "-" then ask (.inspectOpen 0) else ask (.inspect path true)
  let known := statuses.filterMap Except.toOption
  let total := (known.filter (·.kind = .file)).foldl (fun total status => total + status.size) 0
  let least := if known.any (·.kind != .file) then 7 else 1
  return max least (Nat.toDigits 10 total).length

def wcTool (arguments : List String) : Tool Nat := do
  let given ← options
    [.flag 'c' ["bytes"], .flag 'm' ["chars"], .flag 'l' ["lines"], .flag 'w' ["words"],
      .flag 'L' ["max-line-length"], .longValue "files0-from", .longValue "total"] arguments
  let plain := !(["c", "m", "l", "w", "L"].any given.has)
  let columns : List (Counts → Nat) :=
    (if plain || given.has "l" then [Counts.lines] else []) ++
    (if plain || given.has "w" then [Counts.words] else []) ++
    (if given.has "m" then [Counts.bytes] else []) ++
    (if plain || given.has "c" then [Counts.bytes] else []) ++
    (if given.has "L" then [Counts.longest] else [])
  let total := (given.value? "total").getD "auto"
  let paths := orInput given.operands
  let width ← if columns.length = 1 && paths.length = 1 || total = "only" then pure 1
    else countsWidth paths
  let report (name : String) (counts : Counts) : Tool Unit :=
    say (" ".intercalate (columns.map fun column =>
      String.ofList (padNumber width (column counts))) ++ name ++ "\n")
  let all ← paths.mapM fun path => do
    match ← openInput path with
    | .error cause =>
        fileFault path cause
        return none
    | .ok descriptor =>
        let counts ← countInput path descriptor
        closeInput descriptor
        if total != "only" then
          report (if given.operands.isEmpty then "" else " " ++ path) counts
        return some counts
  let sum := (all.filterMap id).foldl Counts.plus {}
  if total = "only" then report "" sum
  else if total = "always" || (total = "auto" && 1 < paths.length) then report " total" sum
  done

end Acceptance.Tools
