import Acceptance.Format.Conversion
import Acceptance.Tools.Options

namespace Acceptance.Tools

open Tool
open Format (Conversion)

-- Tools that print what they are told to.

def trueTool (_ : List String) : Tool Nat := return 0

def falseTool (_ : List String) : Tool Nat := return 1

def echoEscape (text : List Char) : List Char × List Char × Bool :=
  match text with
  | [] => (['\\'], [], false)
  | 'c' :: rest => ([], rest, true)
  | 'e' :: rest => (['\x1b'], rest, false)
  | '0' :: rest =>
      let (value, rest) := Format.octal 3 rest
      ([Format.octet value], rest, false)
  | 'x' :: rest =>
      if (rest.head?.bind Format.hexDigit?).isSome then
        let (value, rest) := Format.digits Format.hexDigit? 16 2 0 rest
        ([Format.octet value], rest, false)
      else (['\\', 'x'], rest, false)
  | c :: rest =>
      if (Format.octalDigit? c).isSome then
        let (value, rest) := Format.octal 3 (c :: rest)
        ([Format.octet value], rest, false)
      else
        match Format.control? c with
        | some control => ([control], rest, false)
        | none => (['\\', c], rest, false)

def echoText : Nat → List Char → List Char × Bool
  | 0, _ => ([], false)
  | _, [] => ([], false)
  | fuel + 1, '\\' :: text =>
      let (start, rest, stopped) := echoEscape text
      if stopped then (start, true)
      else
        let (text, stopped) := echoText fuel rest
        (start ++ text, stopped)
  | fuel + 1, c :: rest =>
      let (text, stopped) := echoText fuel rest
      (c :: text, stopped)

def isEchoOption (word : String) : Bool :=
  match word.toList with
  | '-' :: c :: rest => (c :: rest).all fun c => c == 'n' || c == 'e' || c == 'E'
  | _ => false

def echoTool (arguments : List String) : Tool Nat := do
  let options := arguments.takeWhile isEchoOption
  let words := arguments.drop options.length
  let letters := options.flatMap fun word => word.toList.drop 1
  let escapes := (letters.filter (· != 'n')).getLast? = some 'e'
  let joined := (" ".intercalate words).toList
  let (text, stopped) := if escapes then echoText (joined.length + 1) joined else (joined, false)
  put (if stopped || letters.contains 'n' then text else text ++ ['\n'])
  done

def yesTool (arguments : List String) : Tool Nat := do
  let given ← options [] arguments
  let line := (if given.operands.isEmpty then "y" else " ".intercalate given.operands) ++ "\n"
  let block := (List.replicate (max 1 (bufferSize / line.length)) line.toList).flatten
  Kernel.rounds (fun _ => 0) (fun _ => do
    match ← writeTo 1 block with
    | .ok _ => return .again ()
    | .error cause => die ("standard output: " ++ cause.description)) Kernel.endless ()

structure Formatting where
  arguments : List String
  stopped : Bool := false

abbrev Formatter := StateT Formatting Tool

def nextWord? : Formatter (Option String) := do
  let formatting ← get
  set { formatting with arguments := formatting.arguments.tail }
  return formatting.arguments.head?

def numberFault (argument : String) (rest : List Char) (inRange : Bool) : Formatter Unit := do
  if rest.length = argument.length then
    if !argument.isEmpty then fault (quote argument ++ ": expected a numeric value")
  else if !rest.isEmpty then fault (quote argument ++ ": value not completely converted")
  else if !inRange then fault (quote argument ++ ": Numerical result out of range")

def scanWhole (text : List Char) : Int × List Char :=
  let isSpace (c : Char) : Bool := c == ' ' || (9 ≤ c.toNat && c.toNat ≤ 13)
  let (negative, body) := match text.dropWhile isSpace with
    | '-' :: rest => (true, rest)
    | '+' :: rest => (false, rest)
    | rest => (false, rest)
  let (value, rest) := match body with
    | '0' :: x :: digit :: rest =>
        if (x = 'x' || x = 'X') && (Format.hexDigit? digit).isSome then
          Format.digits Format.hexDigit? 16 rest.length.succ 0 (digit :: rest)
        else Format.octal body.length body
    | '0' :: _ => Format.octal body.length body
    | _ =>
        let digits := body.takeWhile Char.isDigit
        (Format.natOf digits, body.drop digits.length)
  if body.head?.any Char.isDigit then (if negative then -(value : Int) else value, rest)
  else (0, text)

def nextWhole (low high : Int) : Formatter Int := do
  match ← nextWord? with
  | none => return 0
  | some argument =>
      match argument.toList with
      | '\'' :: c :: _ | '"' :: c :: _ => return c.toNat
      | text =>
          let (value, rest) := scanWhole text
          numberFault argument rest (low ≤ value && value ≤ high)
          return max low (min value high)

def nextFraction : Formatter Conversion.Real := do
  match ← nextWord? with
  | none => return .finite false 0 1
  | some argument =>
      match argument.toList with
      | '\'' :: c :: _ | '"' :: c :: _ => return .finite false c.toNat 1
      | text =>
          match Format.scanDecimal? text with
          | some scanned =>
              numberFault argument scanned.rest true
              let (num, den) := scanned.ratio
              return .finite scanned.negative num den
          | none =>
              match argument.toLower with
              | "inf" | "infinity" => return .infinite false
              | "-inf" | "-infinity" => return .infinite true
              | "nan" => return .undefined false
              | _ =>
                  numberFault argument text true
                  return .finite false 0 1

def nextMeasure (text : List Char) : Formatter (Option Int × List Char) := do
  match text with
  | '*' :: rest => return (some (← nextWhole Int32.minValue.toInt Int32.maxValue.toInt), rest)
  | _ =>
      let digits := text.takeWhile Char.isDigit
      if digits.isEmpty then return (none, text)
      return (some (Format.natOf digits : Int), text.drop digits.length)

def formatEscape (text : List Char) : Formatter (List Char × List Char) := do
  match text with
  | '"' :: rest => return (['"'], rest)
  | 'e' :: rest => return (['\x1b'], rest)
  | 'c' :: rest =>
      modify fun formatting => { formatting with stopped := true }
      return ([], rest)
  | 'x' :: rest =>
      if (rest.head?.bind Format.hexDigit?).isSome then
        let (value, rest) := Format.digits Format.hexDigit? 16 2 0 rest
        return ([Format.octet value], rest)
      else die "missing hexadecimal number in escape"
  | [] => return (['\\'], [])
  | c :: rest =>
      if (Format.octalDigit? c).isSome then
        let (value, rest) := Format.octal 3 (c :: rest)
        return ([Format.octet value], rest)
      else
        match Format.control? c with
        | some control => return ([control], rest)
        | none => return (['\\', c], rest)

def convertNext (conversion : Conversion) (kind : Char) : Formatter Bool := do
  match kind with
  | 'b' =>
      let argument := ((← nextWord?).getD "").toList
      let (text, stopped) := echoText (argument.length + 1) argument
      put text
      modify fun formatting => { formatting with stopped }
      return true
  | 'q' =>
      say (shown ((← nextWord?).getD ""))
      return true
  | 'c' =>
      put (conversion.pad (((← nextWord?).getD "").toList.take 1))
      return true
  | 's' =>
      put (conversion.string ((← nextWord?).getD "").toList)
      return true
  | 'd' | 'i' =>
      put (conversion.signed (← nextWhole Int64.minValue.toInt Int64.maxValue.toInt))
      return true
  | 'o' | 'u' | 'x' | 'X' =>
      put (conversion.unsigned kind (← nextWhole (-UInt64.size) (UInt64.size - 1)))
      return true
  | 'e' | 'E' | 'f' | 'F' | 'g' | 'G' =>
      put (conversion.real kind (← nextFraction))
      return true
  | _ => return false

def isSizeLetter (c : Char) : Bool := "hlLjtz".toList.contains c

def formatOnce : Nat → Bool → List Char → Formatter Bool
  | _, used, [] => return used
  | 0, used, _ => return used
  | fuel + 1, used, '\\' :: rest => do
      let (text, rest) ← formatEscape rest
      put text
      if (← get).stopped then return used
      formatOnce fuel used rest
  | fuel + 1, used, '%' :: '%' :: rest => do
      put ['%']
      formatOnce fuel used rest
  | fuel + 1, _, '%' :: rest => do
      let (conversion, after) := Conversion.flags {} rest
      let (width, after) ← nextMeasure after
      let conversion := conversion.withWidth (width.getD 0)
      let (conversion, after) ← match after with
        | '.' :: after => do
            let (precision, after) ← nextMeasure after
            pure (conversion.withPrecision (precision.getD 0), after)
        | after => pure (conversion, after)
      let after := after.dropWhile isSizeLetter
      let refused (length : Nat) : Formatter Bool :=
        die ("%" ++ String.ofList (rest.take length) ++ ": invalid conversion specification")
      match after with
      | [] => refused rest.length
      | kind :: after =>
          if ← convertNext conversion kind then
            if (← get).stopped then return true
            formatOnce fuel true after
          else refused (rest.length - after.length)
  | fuel + 1, used, c :: rest => do
      put [c]
      formatOnce fuel used rest

-- The format is used again as long as arguments are left.
def formatAll (format : List Char) : Nat → Formatter Unit
  | 0 => return ()
  | fuel + 1 => do
      let used ← formatOnce (format.length + 1) false format
      let formatting ← get
      match formatting.stopped, formatting.arguments with
      | false, argument :: _ =>
          if used then formatAll format fuel
          else warn ("warning: ignoring excess arguments, starting with " ++ quote argument)
      | _, _ => return ()

def printfTool (arguments : List String) : Tool Nat := do
  let words := if arguments.head? = some "--" then arguments.tail else arguments
  match words with
  | [] => missingOperand
  | format :: arguments =>
      let _ ← (formatAll format.toList (arguments.length + 1)).run { arguments }
      done

structure Scaled where
  parts : Int
  places : Nat

def Scaled.to (number : Scaled) (places : Nat) : Int :=
  number.parts * Nat.pow 10 (places - number.places)

def scaledOf? (word : String) : Option Scaled :=
  let (whole, rest) := scanWhole word.toList
  let isHex := word.toList.any fun c => c == 'x' || c == 'X'
  if isHex && rest.isEmpty then some ⟨whole, 0⟩
  else do
    let scanned ← Format.scanDecimal? word.toList
    if !scanned.rest.isEmpty then none
    let sign : Int := if scanned.negative then -1 else 1
    if 0 ≤ scanned.exponent then
      some ⟨sign * scanned.coefficient * Nat.pow 10 (min scanned.exponent.toNat 400), 0⟩
    else some ⟨sign * scanned.coefficient, min (-scanned.exponent).toNat 400⟩

def layScaled (places : Nat) (parts : Int) : List Char :=
  let digits := Decimal.fixedLayout places false parts.natAbs (Nat.pow 10 places)
  if parts < 0 then '-' :: digits else digits

def widen (width : Nat) (text : List Char) : List Char :=
  match text with
  | '-' :: digits => '-' :: (List.replicate (width - text.length) '0' ++ digits)
  | digits => List.replicate (width - text.length) '0' ++ digits

structure NumberFormat where
  before : List Char
  conversion : Conversion
  kind : Char
  after : List Char

def plainFormat : Nat → List Char → List Char × List Char
  | 0, text => (text, [])
  | _, [] => ([], [])
  | fuel + 1, '%' :: '%' :: rest =>
      let (text, rest) := plainFormat fuel rest
      ('%' :: text, rest)
  | _, '%' :: rest => ([], '%' :: rest)
  | fuel + 1, c :: rest =>
      let (text, rest) := plainFormat fuel rest
      (c :: text, rest)

def numberFormat (text : String) : Tool NumberFormat := do
  let letters := text.toList
  let (before, rest) := plainFormat letters.length letters
  if rest.isEmpty then misused ("format " ++ quote text ++ " has no % directive")
  let (conversion, rest) := Conversion.flags {} rest.tail
  let width := rest.takeWhile Char.isDigit
  let rest := rest.drop width.length
  let (precision, rest) := match rest with
    | '.' :: rest =>
        let digits := rest.takeWhile Char.isDigit
        (some (Format.natOf digits), rest.drop digits.length)
    | rest => (none, rest)
  match rest.dropWhile (· == 'L') with
  | [] => misused ("format " ++ quote text ++ " ends in %")
  | kind :: rest =>
      if !"efgEFGaA".toList.contains kind then
        misused ("format " ++ quote text ++ " has unknown %" ++ kind.toString ++ " directive")
      let (after, more) := plainFormat rest.length rest
      if !more.isEmpty then misused ("format " ++ quote text ++ " has too many % directives")
      return { before, kind, after,
               conversion := { conversion with width := Format.natOf width, precision } }

def seqNumber (word : String) : Tool Scaled := do
  match scaledOf? word with
  | some number => return number
  | none => misused ("invalid floating point argument: " ++ quote word)

def isNegativeNumber (word : String) : Bool :=
  match word.toList with
  | '-' :: c :: _ => c.isDigit || c == '.'
  | _ => false

def seqOptions : List String → List String × List String
  | [] => ([], [])
  | word :: rest =>
      if isNegativeNumber word || !word.startsWith "-" || word = "-" then ([], word :: rest)
      else if word = "--" then (["--"], rest)
      else if word = "-f" || word = "-s" || word = "--format" || word = "--separator" then
        match rest with
        | value :: rest =>
            let (options, numbers) := seqOptions rest
            (word :: value :: options, numbers)
        | [] => ([word], [])
      else
        let (options, numbers) := seqOptions rest
        (word :: options, numbers)

def seqTool (arguments : List String) : Tool Nat := do
  let (words, numbers) := seqOptions arguments
  let given ← options [.value 'f' ["format"], .value 's' ["separator"], .flag 'w' ["equal-width"]]
    words
  let (first, step, last) ← match given.operands ++ numbers with
    | [] => missingOperand
    | [last] => pure (⟨1, 0⟩, ⟨1, 0⟩, ← seqNumber last)
    | [first, last] => do
        let first ← seqNumber first
        pure (first, ⟨1, 0⟩, ← seqNumber last)
    | [first, step, last] => do
        let first ← seqNumber first
        let number ← seqNumber step
        if number.parts = 0 then misused ("invalid Zero increment value: " ++ quote step)
        pure (first, number, ← seqNumber last)
    | _ :: _ :: _ :: extra :: _ => extraOperand extra
  let shownPlaces := max first.places step.places
  let places := max shownPlaces last.places
  let lay ← match given.value? "f" with
    | some text => do
        let format ← numberFormat text
        pure fun parts : Int => format.before ++ format.conversion.real format.kind
          (.finite (parts < 0) parts.natAbs (Nat.pow 10 places)) ++ format.after
    | none =>
        pure fun parts : Int => layScaled shownPlaces (parts / Nat.pow 10 (places - shownPlaces))
  let start := first.to places
  let increment := step.to places
  let final := last.to places
  let count := if 0 < increment then (if final < start then 0 else (final - start) / increment + 1)
    else if start < final then 0 else (start - final) / (-increment) + 1
  let separator := ((given.value? "s").getD "\n").toList
  let width := if given.has "w" then
      max (lay start).length (lay (start + (count - 1) * increment)).length else 0
  Kernel.rounds (fun _ => ()) (fun (index : Nat) => do
    if count ≤ index then return .finished ()
    if index != 0 then put separator
    put (widen width (lay (start + index * increment)))
    return .again (index + 1)) (count.toNat + 1) 0
  if 0 < count then put ['\n']
  done

end Acceptance.Tools
