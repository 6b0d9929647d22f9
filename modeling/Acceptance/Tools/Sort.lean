import Acceptance.Regex.Basic
import Acceptance.Tools.Columns

namespace Acceptance.Tools

open Tool

-- Lines put in order, by whole lines or by keys.

inductive SortKind where
  | bytes
  | numeric
  | general
  | human
  | month
  | version
  deriving DecidableEq

structure SortOrder where
  kind : SortKind := .bytes
  reversed : Bool := false
  foldsCase : Bool := false
  -- Only letters, digits and blanks count.
  dictionary : Bool := false
  printedOnly : Bool := false
  skipsBlanks : Bool := false

namespace SortOrder

def isPlain (order : SortOrder) : Bool :=
  order.kind = .bytes && !order.reversed && !order.foldsCase && !order.dictionary &&
    !order.printedOnly && !order.skipsBlanks

def withLetter (order : SortOrder) (c : Char) : Option SortOrder :=
  match c with
  | 'b' => some { order with skipsBlanks := true }
  | 'd' => some { order with dictionary := true }
  | 'f' => some { order with foldsCase := true }
  | 'g' => some { order with kind := .general }
  | 'h' => some { order with kind := .human }
  | 'i' => some { order with printedOnly := true }
  | 'M' => some { order with kind := .month }
  | 'n' => some { order with kind := .numeric }
  | 'R' => some order
  | 'r' => some { order with reversed := true }
  | 'V' => some { order with kind := .version }
  | _ => none

end SortOrder

structure SortKey where
  startField : Nat := 0
  startChar : Nat := 0
  finish : Option (Nat × Nat) := none
  endSkipsBlanks : Bool := false
  order : SortOrder := {}

def isSortBlank (c : Char) : Bool := c == ' ' || c == '\t' || c == '\n'

def sortNumber (text : List Char) : Int × Nat :=
  let body := text.dropWhile isSortBlank
  let (negative, body) := match body with
    | '-' :: rest => (true, rest)
    | rest => (false, rest)
  let whole := body.takeWhile Char.isDigit
  let fraction := match body.drop whole.length with
    | '.' :: rest => rest.takeWhile Char.isDigit
    | _ => []
  let value : Int := Format.natOf (whole ++ fraction)
  (if negative then -value else value, fraction.length)

def compareNumbers (left right : Int × Nat) : Ordering :=
  compare (left.1 * Nat.pow 10 right.2) (right.1 * Nat.pow 10 left.2)

def compareGeneral (left right : List Char) : Ordering :=
  match Format.scanDecimal? left, Format.scanDecimal? right with
  | none, none => .eq
  | none, some _ => .lt
  | some _, none => .gt
  | some a, some b =>
      let value (scanned : Format.Scanned) : Int × Nat :=
        let (num, den) := scanned.ratio
        (if scanned.negative then -(num : Int) else num, den)
      let (leftNum, leftDen) := value a
      let (rightNum, rightDen) := value b
      compare (leftNum * rightDen) (rightNum * leftDen)

def unitOrder (text : List Char) : Int :=
  let body := text.dropWhile isSortBlank
  let (negative, body) := match body with
    | '-' :: rest => (true, rest)
    | rest => (false, rest)
  let digits := body.takeWhile Char.isDigit
  let rest := match body.drop digits.length with
    | '.' :: rest => rest.dropWhile Char.isDigit
    | rest => rest
  let power : Int := match rest with
    | 'k' :: _ => 1
    | c :: _ => (("KMGTPEZYRQ".toList.idxOf? c).map fun power => (power : Int) + 1).getD 0
    | [] => 0
  if (sortNumber text).1 = 0 then 0 else if negative then -power else power

def monthOf (text : List Char) : Nat :=
  let name := String.ofList (((text.dropWhile isSortBlank).take 3).map Char.toUpper)
  match ["JAN", "FEB", "MAR", "APR", "MAY", "JUN", "JUL", "AUG", "SEP", "OCT", "NOV",
      "DEC"].idxOf? name with
  | some index => index + 1
  | none => 0

-- The rank of a character in a version: letters come before other marks, a tilde before all.
def versionRank (c : Option Char) : Int :=
  match c with
  | none => -1
  | some c =>
      if c = '~' then -2
      else if c.isDigit then 0
      else if c.isAlpha then c.toNat
      else c.toNat + 256

def compareVersions : Nat → List Char → List Char → Ordering
  | 0, _, _ => .eq
  | fuel + 1, left, right =>
      match left, right with
      | [], [] => .eq
      | left, right =>
          let leftMarks := left.takeWhile (!Char.isDigit ·)
          let rightMarks := right.takeWhile (!Char.isDigit ·)
          let size := max leftMarks.length rightMarks.length
          let ranks := (List.range size).map fun index =>
            compare (versionRank leftMarks[index]?) (versionRank rightMarks[index]?)
          match ranks.find? (· != .eq) with
          | some order => order
          | none =>
              let leftRest := left.drop leftMarks.length
              let rightRest := right.drop rightMarks.length
              let leftDigits := leftRest.takeWhile Char.isDigit
              let rightDigits := rightRest.takeWhile Char.isDigit
              match compare (Format.natOf leftDigits) (Format.natOf rightDigits) with
              | .eq => compareVersions fuel (leftRest.drop leftDigits.length)
                  (rightRest.drop rightDigits.length)
              | order => order

def compareBytes (left right : List Char) : Ordering :=
  if left < right then .lt else if right < left then .gt else .eq

namespace SortOrder

def essence (order : SortOrder) (text : List Char) : List Char :=
  let text := if order.dictionary then text.filter fun c => c.isAlphanum || isSortBlank c
    else text
  let text := if order.printedOnly then text.filter Letters.isPrinted else text
  if order.foldsCase then text.map Char.toUpper else text

def compare (order : SortOrder) (left right : List Char) : Ordering :=
  let result := match order.kind with
    | .bytes => compareBytes (order.essence left) (order.essence right)
    | .numeric => compareNumbers (sortNumber left) (sortNumber right)
    | .general => compareGeneral left right
    | .human =>
        match Ord.compare (unitOrder left) (unitOrder right) with
        | .eq => compareNumbers (sortNumber left) (sortNumber right)
        | other => other
    | .month => Ord.compare (monthOf left) (monthOf right)
    | .version => compareVersions (left.length + right.length + 1) left right
  if order.reversed then result.swap else result

end SortOrder

namespace SortKey

def skipFieldsFrom (separator : Option Char) : Nat → List Char → List Char
  | 0, text => text
  | count + 1, text =>
      match separator with
      | some c =>
          match text.dropWhile (· != c) with
          | _ :: rest => skipFieldsFrom separator count rest
          | [] => []
      | none =>
          skipFieldsFrom separator count
            ((text.dropWhile isSortBlank).dropWhile (!isSortBlank ·))

def fieldsEnd (separator : Option Char) (more : Bool) : Nat → List Char → List Char
  | 0, text => text
  | count + 1, text =>
      match separator with
      | some c =>
          match text.dropWhile (· != c) with
          | mark :: rest =>
              if count != 0 || more then fieldsEnd separator more count rest else mark :: rest
          | [] => []
      | none =>
          fieldsEnd separator more count ((text.dropWhile isSortBlank).dropWhile (!isSortBlank ·))

def start (key : SortKey) (separator : Option Char) (line : List Char) : Nat :=
  let rest := skipFieldsFrom separator key.startField line
  let rest := if key.order.skipsBlanks then rest.dropWhile isSortBlank else rest
  line.length - (rest.drop key.startChar).length

def stop (key : SortKey) (separator : Option Char) (line : List Char) : Nat :=
  match key.finish with
  | none => line.length
  | some (fields, chars) =>
      let fields := if chars = 0 then fields + 1 else fields
      let rest := fieldsEnd separator (chars != 0) fields line
      if chars = 0 then line.length - rest.length
      else
        let rest := if key.endSkipsBlanks then rest.dropWhile isSortBlank else rest
        line.length - (rest.drop chars).length

def text (key : SortKey) (separator : Option Char) (line : List Char) : List Char :=
  let start := key.start separator line
  (line.take (key.stop separator line)).drop start

end SortKey

structure SortStyle where
  keys : List SortKey := []
  separator : Option Char := none
  global : SortOrder := {}
  stable : Bool := false
  unique : Bool := false

namespace SortStyle

def keysOf (style : SortStyle) : List SortKey :=
  if style.keys.isEmpty then
    if { style.global with reversed := false }.isPlain then [] else [{ order := style.global }]
  else style.keys.map fun key =>
    if key.order.isPlain then { key with order := style.global } else key

abbrev Keyed := List Char × List (SortOrder × List Char)

def keyed (style : SortStyle) (line : List Char) : Keyed :=
  (line, style.keysOf.map fun key => (key.order, key.text style.separator line))

def compareKeys : List (SortOrder × List Char) → List (SortOrder × List Char) → Ordering
  | (order, left) :: lefts, (_, right) :: rights =>
      match order.compare left right with
      | .eq => compareKeys lefts rights
      | result => result
  | _, _ => .eq

-- The order of two lines. Lines with equal keys are compared as a whole, unless that is not
-- wanted.
def compare (style : SortStyle) (left right : Keyed) : Ordering :=
  match compareKeys left.2 right.2 with
  | .eq =>
      if !left.2.isEmpty && (style.stable || style.unique) then .eq
      else
        let result := compareBytes left.1 right.1
        if style.global.reversed then result.swap else result
  | result => result

def le (style : SortStyle) (left right : Keyed) : Bool := style.compare left right != .gt

def dropEqual (style : SortStyle) : List Keyed → List Keyed
  | first :: second :: rest =>
      if style.compare first second = .eq then dropEqual style (first :: rest)
      else first :: dropEqual style (second :: rest)
  | lines => lines

def firstWrong (style : SortStyle) : Nat → List Keyed → Option (Nat × List Char)
  | number, first :: second :: rest =>
      let order := style.compare first second
      if order = .gt || (style.unique && order = .eq) then some (number + 1, second.1)
      else firstWrong style (number + 1) (second :: rest)
  | _, _ => none

end SortStyle

def readOrder (word : String) : SortOrder → List Char → Tool (SortOrder × List Char)
  | order, [] => return (order, [])
  | order, c :: rest => do
      match order.withLetter c with
      | some order => readOrder word order rest
      | none => return (order, c :: rest)

def readCount (what : String) (text : List Char) : Tool (Nat × List Char) := do
  let digits := text.takeWhile Char.isDigit
  if digits.isEmpty then
    die ("invalid number " ++ what ++ ": invalid count at start of " ++ quote (String.ofList text))
  return (Format.natOf digits, text.drop digits.length)

def badKey {α : Type} (reason word : String) : Tool α :=
  die (reason ++ ": invalid field specification " ++ quote word)

def readKey (word : String) : Tool SortKey := do
  let (field, rest) ← readCount "at field start" word.toList
  if field = 0 then badKey "field number is zero" word
  let (char, rest) ← match rest with
    | '.' :: rest => do
        let (char, rest) ← readCount "after '.'" rest
        if char = 0 then badKey "character offset is zero" word
        pure (char, rest)
    | rest => pure (1, rest)
  let (order, rest) ← readOrder word {} rest
  match rest with
  | [] => return { startField := field - 1, startChar := char - 1, order }
  | ',' :: rest =>
      let (endField, rest) ← readCount "after ','" rest
      if endField = 0 then badKey "field number is zero" word
      let (endChar, rest) ← match rest with
        | '.' :: rest => readCount "after '.'" rest
        | rest => pure (0, rest)
      let (last, rest) ← readOrder word { order with skipsBlanks := false } rest
      if !rest.isEmpty then badKey "stray character in field spec" word
      return { startField := field - 1, startChar := char - 1
               finish := some (endField - 1, endChar)
               endSkipsBlanks := last.skipsBlanks
               order := { last with skipsBlanks := order.skipsBlanks } }
  | _ => badKey "stray character in field spec" word

def sortSwitches : List Switch := [
  .flag 'b' ["ignore-leading-blanks"], .flag 'd' ["dictionary-order"], .flag 'f' ["ignore-case"],
  .flag 'g' ["general-numeric-sort"], .flag 'i' ["ignore-nonprinting"], .flag 'M' ["month-sort"],
  .flag 'h' ["human-numeric-sort"], .flag 'n' ["numeric-sort"], .flag 'R' ["random-sort"],
  .flag 'r' ["reverse"], .flag 'V' ["version-sort"], .flag 'c' [], .longAttached "check",
  .flag 'C' [], .value 'k' ["key"], .flag 'm' ["merge"], .value 'o' ["output"],
  .flag 's' ["stable"], .value 'S' ["buffer-size"], .value 't' ["field-separator"],
  .value 'T' ["temporary-directory"], .flag 'u' ["unique"], .flag 'z' ["zero-terminated"],
  .longValue "parallel", .longValue "batch-size", .longValue "compress-program",
  .longValue "files0-from", .longFlag "debug", .longValue "sort", .longValue "random-source"]

def sortSeparator (text : String) : Tool Char := do
  match text.toList with
  | [] => die "empty tab"
  | [c] => return c
  | ['\\', '0'] => return '\x00'
  | _ => die ("multi-character tab " ++ quote text)

def sortLines (finish : Char) (problem path : String) : Tool (List (List Char)) := do
  match ← openInput path with
  | .error cause => die (problem ++ ": " ++ shown path ++ ": " ++ cause.description)
  | .ok descriptor =>
      match ← readAll descriptor with
      | .error cause => die ("read failed: " ++ shown path ++ ": " ++ cause.description)
      | .ok text =>
          closeInput descriptor
          return (splitLines (text.length + 1) finish text).map (·.text)

def sortTool (arguments : List String) : Tool Nat := do
  let given ← options sortSwitches arguments
  let order := given.options.foldl (fun (order : SortOrder) (key, _) =>
    match key.toList with
    | [c] => if "bdfghiMnRrV".toList.contains c then (order.withLetter c).getD order else order
    | _ => order) {}
  let keys ← (given.values "k").mapM readKey
  let separator ← match given.value? "t" with
    | some text => some <$> sortSeparator text
    | none => pure none
  let finish := if given.has "z" then '\x00' else '\n'
  let style : SortStyle :=
    { keys, separator, global := order, stable := given.has "s", unique := given.has "u" }
  let paths := orInput given.operands
  let checks := given.has "c" || given.has "check" || given.has "C"
  if checks then
    match paths with
    | [path] =>
        let lines ← sortLines finish "open failed" path
        let silent := given.has "C" || given.value? "check" matches some "quiet" | some "silent"
        match style.firstWrong 1 (lines.map style.keyed) with
        | none => return 0
        | some (number, line) =>
            if !silent then warn (s!"{path}:{number}: disorder: " ++ String.ofList line)
            return 1
    | _ :: extra :: _ => die ("extra operand " ++ quote extra ++ " not allowed with -c")
    | [] => return 0
  else
    let files ← paths.mapM (sortLines finish "cannot read")
    let keyed := files.map fun lines => lines.map style.keyed
    let sorted := if given.has "m" then
        keyed.foldl (fun merged lines => merged.merge lines style.le) []
      else keyed.flatten.mergeSort style.le
    let sorted := if style.unique then style.dropEqual sorted else sorted
    if let some path := given.value? "o" then
      match ← ask (.open path .forWriting) with
      | .ok target =>
          let _ ← ask (.redirect target 1)
          let _ ← ask (.close target)
      | .error cause => die ("open failed: " ++ shown path ++ ": " ++ cause.description)
    sorted.forM fun (line, _) => put (line ++ [finish])
    done

end Acceptance.Tools
