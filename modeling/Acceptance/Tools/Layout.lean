import Acceptance.Regex.Reader
import Acceptance.Tools.Streams

namespace Acceptance.Tools

open Tool

-- Tools that lay out lines anew: with numbers, or the other way round.

def revTool (arguments : List String) : Tool Nat := do
  let given ← options [] arguments
  (orInput given.operands).forM fun path => do
    match ← openInput path with
    | .error cause => fault ("cannot open " ++ path ++ ": " ++ cause.description)
    | .ok descriptor =>
        foldLines descriptor '\n' () fun _ line =>
          put ({ line with text := line.text.reverse } : Line).whole
        closeInput descriptor
  done

def separatorsIn (find : Nat → Option Nat) : Nat → Nat → List (Nat × Nat)
  | 0, _ => []
  | position + 1, limit =>
      match find position with
      | some finish =>
          if finish ≤ limit && position < finish then
            (position, finish) :: separatorsIn find position position
          else separatorsIn find position limit
      | none => separatorsIn find position limit

def reversePieces (text : Array Char) (before : Bool) (separators : List (Nat × Nat)) :
    List Char :=
  let cuts := separators.map fun (start, finish) => if before then start else finish
  let (pieces, limit) := cuts.foldl (fun (pieces, limit) cut =>
    ((text.extract cut limit).toList :: pieces, cut)) (([] : List (List Char)), text.size)
  (((text.extract 0 limit).toList) :: pieces).reverse.flatten

def tacTool (arguments : List String) : Tool Nat := do
  let given ← options [.flag 'b' ["before"], .flag 'r' ["regex"], .value 's' ["separator"]]
    arguments
  let separator := match given.value? "s" with
    | some "" => ['\x00']
    | some text => text.toList
    | none => ['\n']
  let regex ← if given.has "r" then
      match Regex.compile {} separator with
      | .ok compiled => pure compiled.regex
      | .error cause => die cause.text
    else pure (Regex.literal separator)
  (orInput given.operands).forM fun path => do
    match ← readFile path with
    | .error cause =>
        if cause = .isDirectory then fault (shown path ++ ": read error: " ++ cause.description)
        else fault ("failed to open " ++ quote path ++ " for reading: " ++ cause.description)
    | .ok text =>
        let subject := Subject.ofList text
        let find (position : Nat) : Option Nat := (regex.matchAt subject position).map (·.finish)
        put (reversePieces subject.text (given.has "b")
          (separatorsIn find subject.size subject.size))
  done

inductive Numbering where
  | all
  | filled
  | none
  | matching (regex : Regex)

def readNumbering (section_ text : String) : Tool Numbering := do
  match text.toList with
  | ['a'] => return .all
  | ['t'] => return .filled
  | ['n'] => return .none
  | 'p' :: pattern =>
      match Regex.compile {} pattern with
      | .ok compiled => return .matching compiled.regex
      | .error cause => die cause.text
  | _ => misused ("invalid " ++ section_ ++ " numbering style: " ++ quote text)

structure NlStyle where
  header : Numbering
  body : Numbering
  footer : Numbering
  width : Nat := 6
  separator : List Char := ['\t']
  start : Int := 1
  step : Int := 1
  blanks : Nat := 1
  format : String := "rn"
  delimiter : List Char := ['\\', ':']
  keepsNumber : Bool := false

structure NlState where
  current : Numbering
  next : Int
  blanks : Nat := 0

namespace NlStyle

def lay (style : NlStyle) (number : Int) : List Char :=
  let digits := Nat.toDigits 10 number.natAbs
  let text := if number < 0 then '-' :: digits else digits
  let padding := style.width - text.length
  match style.format with
  | "ln" => text ++ List.replicate padding ' '
  | "rz" =>
      let zeros := List.replicate padding '0'
      if number < 0 then '-' :: (zeros ++ digits) else zeros ++ digits
  | _ => List.replicate padding ' ' ++ text

def section? (style : NlStyle) (line : List Char) : Option Numbering :=
  let mark := style.delimiter
  if mark.isEmpty then Option.none
  else if line = mark ++ mark ++ mark then some style.header
  else if line = mark ++ mark then some style.body
  else if line = mark then some style.footer
  else Option.none

def counts (style : NlStyle) (state : NlState) (line : List Char) : Bool × Nat :=
  let blanks := if line.isEmpty then state.blanks + 1 else 0
  match state.current with
  | .all => if line.isEmpty && 1 < style.blanks then
        if blanks = style.blanks then (true, 0) else (false, blanks)
      else (true, 0)
  | .filled => (!line.isEmpty, 0)
  | .none => (false, 0)
  | .matching regex => (regex.isIn (Subject.ofList line), 0)

def line (style : NlStyle) (state : NlState) (line : Line) : Tool NlState := do
  match style.section? line.text with
  | some current =>
      say "\n"
      return { state with current, next := if style.keepsNumber then state.next else style.start }
  | Option.none =>
      let (counted, blanks) := style.counts state line.text
      if counted then
        put (style.lay state.next ++ style.separator ++ line.text ++ ['\n'])
        return { state with next := state.next + style.step, blanks }
      else
        put (List.replicate (style.width + style.separator.length) ' ' ++ line.text ++ ['\n'])
        return { state with blanks }

end NlStyle

def nlTool (arguments : List String) : Tool Nat := do
  let given ← options
    [.value 'b' ["body-numbering"], .value 'd' ["section-delimiter"],
      .value 'f' ["footer-numbering"], .value 'h' ["header-numbering"],
      .value 'i' ["line-increment"], .value 'l' ["join-blank-lines"],
      .value 'n' ["number-format"], .flag 'p' ["no-renumber"],
      .value 's' ["number-separator"], .value 'v' ["starting-line-number"],
      .value 'w' ["number-width"]] arguments
  let numbering (key name default_ : String) : Tool Numbering :=
    readNumbering name ((given.value? key).getD default_)
  let number (key what : String) (default_ : Int) : Tool Int := do
    match given.value? key with
    | some text =>
        match text.toInt? with
        | some value => return value
        | none => die ("invalid " ++ what ++ ": " ++ quote text)
    | none => return default_
  let positive (key what : String) (default_ : Int) : Tool Nat := do
    let value ← number key what default_
    if value ≤ 0 then
      die ("invalid " ++ what ++ ": " ++ quote ((given.value? key).getD "") ++
        ": Numerical result out of range")
    return value.toNat
  let format := (given.value? "n").getD "rn"
  if !(["ln", "rn", "rz"].contains format) then
    misused ("invalid line numbering format: " ++ quote format)
  let style : NlStyle :=
    { header := ← numbering "h" "header" "n", body := ← numbering "b" "body" "t"
      footer := ← numbering "f" "footer" "n", format
      step := ← number "i" "line number increment" 1
      start := ← number "v" "starting line number" 1
      blanks := ← positive "l" "line number of blank lines" 1
      width := ← positive "w" "line number field width" 6
      separator := ((given.value? "s").getD "\t").toList, keepsNumber := given.has "p"
      delimiter := match given.value? "d" with
        | some text => if text.length = 1 then text.toList ++ [':'] else text.toList
        | none => ['\\', ':'] }
  let _ ← (orInput given.operands).foldlM (fun state path => do
    match ← openInput path with
    | .error cause =>
        fileFault path cause
        return state
    | .ok descriptor =>
        let state ← foldLines descriptor '\n' state style.line
        closeInput descriptor
        return state) ({ current := style.body, next := style.start } : NlState)
  done

end Acceptance.Tools
