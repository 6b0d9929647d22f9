import Acceptance.Format.Size
import Acceptance.Tools.Paths

namespace Acceptance.Tools

open Tool
open Kernel (Status Kind)

-- Lists of files and what is known of them: the tools `ls` and `dir`.

def kindLetter : Kind → Char
  | .file => '-'
  | .directory => 'd'
  | .link => 'l'
  | .device => 'c'
  | .pipe => 'p'

def rightLetters (bits : Nat) (special : Bool) (mark : Char) : String :=
  let last := match special, bits % 2 == 1 with
    | true, true => mark
    | true, false => mark.toUpper
    | false, true => 'x'
    | false, false => '-'
  String.ofList [if 4 ≤ bits % 8 then 'r' else '-', if 2 ≤ bits % 4 then 'w' else '-', last]

def modeText (status : Status) : String :=
  let mode := status.mode
  (kindLetter status.kind).toString ++
    rightLetters (mode / 64 % 8) (mode / 2048 % 2 == 1) 's' ++
    rightLetters (mode / 8 % 8) (mode / 1024 % 2 == 1) 's' ++
    rightLetters (mode % 8) (mode / 512 % 2 == 1) 't'

def roomOf (status : Status) : Nat :=
  match status.kind with
  | .file | .directory => (status.size + 4095) / 4096 * 4
  | _ => 0

def timeText : String := "Jan  1 00:00"

inductive NameStyle where
  | plain
  | masked
  | escaped
  | quoted
  | shell
  deriving DecidableEq

namespace NameStyle

def escape (marks : List Char) (c : Char) : List Char :=
  if c = '\\' || marks.contains c then ['\\', c]
  else if isPlainInName c then [c]
  else
    match c with
    | '\x07' => ['\\', 'a']
    | '\x08' => ['\\', 'b']
    | '\x0b' => ['\\', 'v']
    | '\x0c' => ['\\', 'f']
    | c => controlCode c

def write (style : NameStyle) (name : String) : String :=
  match style with
  | .plain => name
  | .masked => String.ofList (name.toList.map fun c => if isPlainInName c then c else '?')
  | .escaped => String.ofList (name.toList.flatMap (escape [' ']))
  | .quoted => "\"" ++ String.ofList (name.toList.flatMap (escape ['"'])) ++ "\""
  | .shell => shown name

end NameStyle

inductive ListForm where
  | lines
  | columns
  | across
  | commas
  | long
  deriving DecidableEq

inductive ListOrder where
  | name
  | size
  | ending
  | nothing
  deriving DecidableEq

structure ListStyle where
  form : ListForm := .lines
  order : ListOrder := .name
  reversed : Bool := false
  hidden : Bool := false
  itself : Bool := false
  ignored : List String := []
  shallow : Bool := false
  deep : Bool := false
  directoriesFirst : Bool := false
  follows : Bool := false
  slashes : Bool := false
  marks : Bool := false
  names : NameStyle := .plain
  rooms : Bool := false
  owner : Bool := true
  group : Bool := true
  numeric : Bool := false
  width : Nat := 80
  finish : String := "\n"

structure ListedFile where
  name : String
  status : Status
  target : Option String := none

namespace ListStyle

def markOf (style : ListStyle) (status : Status) : String :=
  match status.kind with
  | .directory => if style.slashes || style.marks then "/" else ""
  | .link => if style.marks && style.form != .long then "@" else ""
  | .pipe => if style.marks then "|" else ""
  | .file => if style.marks && Entry.isRunnable status.mode then "*" else ""
  | .device => ""

def shownName (style : ListStyle) (file : ListedFile) : String :=
  style.names.write file.name ++ style.markOf file.status

def endingOf (name : String) : String :=
  match name.toList.reverse.dropWhile (· != '.') with
  | [] => ""
  | _ => String.ofList ('.' :: (name.toList.reverse.takeWhile (· != '.')).reverse)

def comesBefore (style : ListStyle) (left right : ListedFile) : Bool :=
  let byName := decide (left.name ≤ right.name)
  match style.order with
  | .name | .nothing => byName
  | .size => right.status.size < left.status.size ||
      (left.status.size == right.status.size && byName)
  | .ending =>
      let first := endingOf left.name
      let second := endingOf right.name
      first < second || (first == second && byName)

def sorted (style : ListStyle) (files : List ListedFile) : List ListedFile :=
  let files := files.mergeSort style.comesBefore
  let files := if style.reversed then files.reverse else files
  if style.directoriesFirst then
    let (first, others) := files.partition (·.status.kind == .directory)
    first ++ others
  else files

def isShown (style : ListStyle) (name : String) : Bool :=
  (style.hidden || !name.startsWith ".") && !style.ignored.any (patternCovers · name)

end ListStyle

def indentation : Nat → Nat → Nat → List Char
  | 0, _, _ => []
  | fuel + 1, start, finish =>
      if finish ≤ start then []
      else if (start + 1) / 8 < finish / 8 then
        '\t' :: indentation fuel (start + 8 - start % 8) finish
      else ' ' :: indentation fuel (start + 1) finish

def columnWidths? (lengths : List Nat) (count width : Nat) (place : Nat → Nat) :
    Option (List Nat) :=
  let widths := (List.range count).map fun column =>
    (lengths.zipIdx.filter fun (_, index) => place index == column).foldl
      (fun width (length, _) => max width (length + if column + 1 = count then 0 else 2)) 3
  if widths.foldl (· + ·) 0 < width then some widths else none

def inColumns (names : List String) (width : Nat) (acrossRows : Bool) : List (List Char) :=
  let lengths := names.map (·.length)
  let total := names.length
  let rowsFor (count : Nat) : Nat := (total + count - 1) / count
  let placeFor (count index : Nat) : Nat :=
    if acrossRows then index % count else index / rowsFor count
  let most := min total (max 1 (width / 3))
  let fitting := ((List.range most).map (· + 1)).reverse.findSome? fun count =>
    (columnWidths? lengths count width (placeFor count)).map fun widths => (count, widths)
  let (count, widths) := fitting.getD (1, [width])
  let rows := rowsFor count
  (List.range rows).map fun row =>
    let cells := names.zipIdx.filter fun (_, index) =>
      if acrossRows then index / count == row else index % rows == row
    let step (line : List Char × Nat × Nat × Nat) (cell : String × Nat) :
        List Char × Nat × Nat × Nat :=
      let (text, column, start, position) := line
      let gap := if column = 0 then [] else indentation width position start
      (text ++ gap ++ cell.1.toList, column + 1, start + widths.getD column 0,
        start + cell.1.length)
    (cells.foldl step ([], 0, 0, 0)).1

def withCommas (width : Nat) : Nat → List String → List Char
  | _, [] => []
  | position, name :: rest =>
      match rest with
      | [] => name.toList
      | next :: _ =>
          let position := position + name.length
          if width = 0 || position + 2 + next.length + 1 ≤ width then
            name.toList ++ [',', ' '] ++ withCommas width (position + 2) rest
          else name.toList ++ [',', '\n'] ++ withCommas width 0 rest

def padLeft (width : Nat) (text : String) : String :=
  String.ofList (List.replicate (width - text.length) ' ') ++ text

def sizeText (status : Status) : String :=
  match status.kind with
  | .device => "1, 3"
  | _ => toString status.size

def longLine (style : ListStyle) (nameWidth sizeWidth : Nat) (file : ListedFile) : String :=
  let status := file.status
  let user := if style.numeric then "0 " else "root "
  modeText status ++ " " ++ padLeft nameWidth (toString status.names) ++ " " ++
    (if style.owner then user else "") ++ (if style.group then user else "") ++
    padLeft sizeWidth (sizeText status) ++ " " ++ timeText ++ " " ++ style.shownName file ++
    (match file.target with
      | some target => " -> " ++ style.names.write target
      | none => "")

def putFiles (style : ListStyle) (files : List ListedFile) : Tool Unit := do
  let widest (text : ListedFile → String) : Nat :=
    files.foldl (fun width file => max width (text file).length) 0
  let roomText (file : ListedFile) : String := toString (roomOf file.status)
  let roomWidth := widest roomText
  let names := files.map fun file =>
    (if style.rooms && style.form != .commas then padLeft roomWidth (roomText file) ++ " "
      else "") ++ style.shownName file
  if files.isEmpty then return ()
  match style.form with
  | .lines => names.forM fun name => say (name ++ style.finish)
  | .columns | .across =>
      if style.width = 0 then say ("  ".intercalate names ++ "\n")
      else (inColumns names style.width (style.form == .across)).forM putLine
  | .commas => putLine (withCommas style.width 0 names)
  | .long =>
      let nameWidth := widest fun file => toString file.status.names
      let sizeWidth := widest fun file => sizeText file.status
      files.forM fun file =>
        let room := if style.rooms then padLeft roomWidth (roomText file) ++ " " else ""
        say (room ++ longLine style nameWidth sizeWidth file ++ style.finish)

def listedFile (style : ListStyle) (follow : Bool) (name path : String) :
    Tool (Except IoError ListedFile) := do
  match ← statusAt path follow with
  | .error cause => return .error cause
  | .ok status =>
      let target ← if status.kind == .link && style.form == .long then
          match ← ask (.readLink path) with
          | .ok target => pure (some target)
          | .error _ => pure none
        else pure none
      return .ok { name, status, target }

def filesIn (style : ListStyle) (path : String) (names : List String) : Tool (List ListedFile) := do
  let itself := if style.itself then [".", ".."] else []
  let found ← (itself ++ names.filter style.isShown).mapM fun name => do
    match ← listedFile style style.follows name (under path name) with
    | .ok file => return some file
    | .error cause =>
        fault ("cannot access " ++ quote (under path name) ++ ": " ++ cause.description)
        return none
  return found.filterMap id

def listDirectories (style : ListStyle) (headed : Bool) : Nat → Bool → List String → Tool Unit
  | 0, _, _ => return ()
  | _, _, [] => return ()
  | fuel + 1, first, path :: rest => do
      match ← namesIn path with
      | .error cause =>
          fault ("cannot open directory " ++ quote path ++ ": " ++ cause.description)
          listDirectories style headed fuel first rest
      | .ok names =>
          let files := style.sorted (← filesIn style path names)
          if headed then
            say ((if first then "" else "\n") ++ style.names.write path ++ ":\n")
          if style.form == .long || style.rooms then
            let room := files.foldl (fun room file => room + roomOf file.status) 0
            say s!"total {room}\n"
          putFiles style files
          let inner := if !style.deep then [] else
            (files.filter fun file => file.status.kind == .directory &&
              file.name != "." && file.name != "..").map fun file => under path file.name
          listDirectories style headed fuel false (inner ++ rest)

def listSwitches : List Switch := [
  .flag 'a' ["all"], .flag 'A' ["almost-all"], .flag 'b' ["escape"],
  .flag 'B' ["ignore-backups"], .flag 'c' [], .flag 'C' [], .longAttached "color",
  .flag 'd' ["directory"], .flag 'f' [], .attached 'F' [], .longAttached "classify",
  .longFlag "file-type", .longValue "format", .flag 'g' [], .longFlag "group-directories-first",
  .flag 'G' ["no-group"], .flag 'h' ["human-readable"], .flag 'H' ["dereference-command-line"],
  .longValue "hide", .longValue "indicator-style", .flag 'i' ["inode"], .value 'I' ["ignore"],
  .flag 'k' ["kibibytes"], .flag 'l' [], .flag 'L' ["dereference"], .flag 'm' [],
  .flag 'n' ["numeric-uid-gid"], .flag 'N' ["literal"], .flag 'o' [], .flag 'p' [],
  .flag 'q' ["hide-control-chars"], .longFlag "show-control-chars", .flag 'Q' ["quote-name"],
  .longValue "quoting-style", .flag 'r' ["reverse"], .flag 'R' ["recursive"],
  .flag 's' ["size"], .flag 'S' [], .longValue "sort", .longValue "time",
  .longValue "time-style", .flag 't' [], .value 'T' ["tabsize"], .flag 'u' [], .flag 'U' [],
  .flag 'v' [], .value 'w' ["width"], .flag 'x' [], .flag 'X' [], .flag 'Z' ["context"],
  .flag '1' [], .longFlag "zero", .longFlag "full-time", .longFlag "author"]

-- The form that was asked for last. A long list stays one when single lines are asked for.
def formOf (plain : ListForm) (given : Given) : ListForm :=
  given.options.foldl (fun form (key, value) =>
    match key with
    | "1" => if form == .long then form else .lines
    | "l" | "g" | "n" | "o" | "full-time" => .long
    | "C" => .columns
    | "x" => .across
    | "m" => .commas
    | "format" =>
        match value with
        | "long" | "verbose" => .long
        | "commas" => .commas
        | "across" | "horizontal" => .across
        | "vertical" => .columns
        | _ => .lines
    | _ => form) plain

def orderOf (given : Given) : ListOrder :=
  given.options.foldl (fun order (key, value) =>
    match key, value with
    | "S", _ | "sort", "size" => .size
    | "X", _ | "sort", "extension" => .ending
    | "U", _ | "f", _ | "sort", "none" => .nothing
    | "t", _ | "v", _ | "sort", _ => .name
    | _, _ => order) .name

def nameStyleOf (usual : NameStyle) (given : Given) : NameStyle :=
  given.options.foldl (fun style (key, value) =>
    match key, value with
    | "b", _ | "quoting-style", "escape" => .escaped
    | "Q", _ | "quoting-style", "c" => .quoted
    | "N", _ | "quoting-style", "literal" => .plain
    | "q", _ => if style == .plain then .masked else style
    | "quoting-style", "shell" | "quoting-style", "shell-escape" => .shell
    | _, _ => style) usual

def listTool (plain : ListForm) (plainNames : NameStyle) (arguments : List String) :
    Tool Nat := do
  let given ← options listSwitches arguments
  let classes := (given.value? "F").orElse fun _ => given.value? "classify"
  let marks := classes.any fun word => word != "never" && word != "no" && word != "none" &&
    word != "auto"
  let settings := (← get).settings
  let width := (given.value? "w").orElse fun _ => settings.lookup "COLUMNS"
  let width := (width.bind (·.toNat?)).getD 80
  let style : ListStyle :=
    { form := formOf plain given, order := orderOf given
      reversed := given.has "r", hidden := given.has "a" || given.has "A" || given.has "f"
      itself := given.last? ["a", "A", "f"] matches some "a" | some "f"
      ignored := given.values "I" ++ (if given.has "B" then ["*~"] else []) ++
        (if given.has "a" || given.has "A" then [] else given.values "hide")
      shallow := given.has "d", deep := given.has "R" && !given.has "d"
      directoriesFirst := given.has "group-directories-first", follows := given.has "L"
      slashes := given.has "p" || given.value? "indicator-style" = some "slash"
      marks := marks || given.has "file-type" ||
        given.value? "indicator-style" matches some "classify" | some "file-type"
      names := nameStyleOf plainNames given, rooms := given.has "s"
      owner := !given.has "g", group := !given.has "o" && !given.has "G"
      numeric := given.has "n", width
      finish := if given.has "zero" then "\x00" else "\n" }
  let operands := if given.operands.isEmpty then ["."] else given.operands
  -- A link to a directory is followed, unless the list is about the links themselves.
  let followsLinks := given.has "H" || style.follows ||
    !(style.form == .long || style.shallow || style.marks)
  let found ← operands.mapM fun path => do
    let direct ← listedFile style style.follows path path
    let file ← match direct with
      | .ok file =>
          if file.status.kind == .link && followsLinks && (given.has "H" || (← isDirectory path))
          then listedFile style true path path else pure direct
      | .error _ => pure direct
    match file with
    | .ok file => return some file
    | .error cause =>
        fault ("cannot access " ++ quote path ++ ": " ++ cause.description)
        return none
  let found := found.filterMap id
  let (directories, files) := found.partition fun file =>
    file.status.kind == .directory && !style.shallow
  putFiles style (style.sorted files)
  if !files.isEmpty && !directories.isEmpty then say "\n"
  let headed := style.deep || 1 < operands.length
  listDirectories style headed 100000 true ((style.sorted directories).map (·.name))
  done

end Acceptance.Tools
