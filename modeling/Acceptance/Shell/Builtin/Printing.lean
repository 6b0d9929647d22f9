import Acceptance.Format.Conversion
import Acceptance.Shell.Jobs

namespace Acceptance.Shell.Builtin

open Action
open Format

def escape (text : List Char) : Char × List Char :=
  match text with
  | [] => ('\\', [])
  | c :: rest =>
      if (octalDigit? c).isSome then
        let (value, rest) := octal 3 text
        (octet value, rest)
      else if c = 'e' then ('\x1b', rest)
      else
        match control? c with
        | some c => (c, rest)
        | none => ('\\', text)

def unescape : Nat → List Char → List Char × Bool
  | _, [] => ([], false)
  | 0, _ => ([], false)
  | fuel + 1, '\\' :: c :: rest =>
      if c = 'c' then ([], true)
      else
        let (c, rest) := if c = '0' then
            let (value, rest) := octal 3 rest
            (octet value, rest)
          else escape (c :: rest)
        let (more, stopped) := unescape fuel rest
        (c :: more, stopped)
  | fuel + 1, c :: rest =>
      let (more, stopped) := unescape fuel rest
      (c :: more, stopped)

def unescaped (text : String) : List Char × Bool := unescape (text.length + 1) text.toList

def echoText : List String → List Char × Bool
  | [] => ([], false)
  | [word] => unescaped word
  | word :: words =>
      match unescaped word with
      | (text, true) => (text, true)
      | (text, false) =>
          let (more, stopped) := echoText words
          (text ++ ' ' :: more, stopped)

-- Options of an `echo` that leaves escapes alone, unless it is told otherwise.
def echoOptions : Bool → Bool → List String → Bool × Bool × List String
  | bare, escapes, word :: words =>
      let letters := word.toList.drop 1
      let known := letters.all fun c => "neE".toList.contains c
      if word.startsWith "-" && !letters.isEmpty && known then
        let escapes := letters.foldl (fun escapes c =>
          if c = 'e' then true else if c = 'E' then false else escapes) escapes
        echoOptions (bare || letters.contains 'n') escapes words
      else (bare, escapes, word :: words)
  | bare, escapes, [] => (bare, escapes, [])

def richEcho (arguments : List String) : Action Nat := do
  let (bare, escapes, words) := echoOptions false false arguments
  let (text, stopped) := if escapes then echoText words else
    ((" ".intercalate words).toList, false)
  emit (String.ofList (if bare || stopped then text else text ++ ['\n']))
  return 0

def echo (arguments : List String) : Action Nat := do
  if (← get).dialect = .rich then return ← richEcho arguments
  let (bare, words) := match arguments with
    | "-n" :: words => (true, words)
    | words => (false, words)
  let (text, stopped) := echoText words
  emit (String.ofList (if bare || stopped then text else text ++ ['\n']))
  return 0

structure Printer where
  arguments : List String
  text : List Char := []
  status : Nat := 0
  stopped : Bool := false

abbrev Printing := StateT Printer Action

def put (text : List Char) : Printing Unit :=
  modify fun printer => { printer with text := text.foldl (fun text c => c :: text) printer.text }

def nextArgument? : Printing (Option String) := do
  let printer ← get
  set { printer with arguments := printer.arguments.tail }
  return printer.arguments.head?

def objection (message : String) : Printing Unit := do
  warn message
  modify fun printer => { printer with status := 1 }

-- Ends the use of a format; what it has printed so far stays.
def abandon (message : String) : Printing Unit := do
  warn message
  modify fun printer => { printer with status := 2, stopped := true }

def checkRest (argument : String) (rest : List Char) (inRange : Bool) : Printing Unit := do
  if !rest.isEmpty then
    if rest.length = argument.length then objection (argument ++ ": expected numeric value")
    else objection (argument ++ ": not completely converted")
  else if !inRange then objection (argument ++ ": Numerical result out of range")

def scanInteger (text : List Char) : Int × List Char :=
  let body := text.dropWhile Arithmetic.isSpace
  let (negative, digits) := match body with
    | '-' :: rest => (true, rest)
    | '+' :: rest => (false, rest)
    | rest => (false, rest)
  if digits.head?.any Char.isDigit then
    let (value, rest) := Arithmetic.number digits
    (if negative then -(value : Int) else value, rest)
  else (0, text)

def nextInteger (low high : Int) : Printing Int := do
  match ← nextArgument? with
  | none => return 0
  | some argument =>
      match argument.toList with
      | '\'' :: rest | '"' :: rest => return (rest.headD '\x00').toNat
      | text =>
          let (value, rest) := scanInteger text
          checkRest argument rest (low ≤ value && value ≤ high)
          return max low (min value high)

def nextReal : Printing Conversion.Real := do
  match ← nextArgument? with
  | none => return .finite false 0 1
  | some argument =>
      match argument.toList with
      | '\'' :: rest | '"' :: rest => return .finite false (rest.headD '\x00').toNat 1
      | text =>
          match scanDecimal? text with
          | some scanned =>
              checkRest argument scanned.rest true
              match Decimal.Binary64.ofDecimal? scanned.coefficient scanned.exponent with
              | some number =>
                  let (num, den) := number.toRatio
                  return .finite scanned.negative num den
              | none => return .infinite scanned.negative
          | none =>
              checkRest argument text true
              return .finite false 0 1

def measure (text : List Char) : Printing (Option Int × List Char) := do
  match text with
  | '*' :: rest => return (some (← nextInteger Int32.minValue.toInt Int32.maxValue.toInt), rest)
  | _ =>
      let digits := text.takeWhile Char.isDigit
      if digits.isEmpty then return (none, text)
      return (some (natOf digits : Int), text.drop digits.length)

def specification (text : List Char) : Printing (Conversion × List Char) := do
  let (conversion, rest) := Conversion.flags {} text
  let (width, rest) ← measure rest
  let conversion := conversion.withWidth (width.getD 0)
  match rest with
  | '.' :: rest =>
      let (precision, rest) ← measure rest
      return (conversion.withPrecision (precision.getD 0), rest)
  | _ => return (conversion, rest)

def convert (conversion : Conversion) (kind : Char) : Printing Bool := do
  match kind with
  | 'b' =>
      let (text, stopped) := unescaped ((← nextArgument?).getD "")
      put (conversion.string text)
      modify fun printer => { printer with stopped }
      return true
  | 'c' =>
      put (conversion.pad [((← nextArgument?).getD "").toList.headD '\x00'])
      return true
  | 's' =>
      put (conversion.string ((← nextArgument?).getD "").toList)
      return true
  | 'd' | 'i' =>
      put (conversion.signed (← nextInteger Int64.minValue.toInt Int64.maxValue.toInt))
      return true
  | 'o' | 'u' | 'x' | 'X' =>
      put (conversion.unsigned kind (← nextInteger (-UInt64.size) (UInt64.size - 1)))
      return true
  | 'e' | 'E' | 'f' | 'F' | 'g' | 'G' =>
      put (conversion.real kind (← nextReal))
      return true
  | _ => return false

def printOnce : Nat → List Char → Printing Unit
  | _, [] => return ()
  | 0, _ => return ()
  | fuel + 1, '\\' :: rest => do
      let (c, rest) := escape rest
      put [c]
      printOnce fuel rest
  | fuel + 1, '%' :: '%' :: rest => do
      put ['%']
      printOnce fuel rest
  | fuel + 1, '%' :: rest => do
      let (conversion, after) ← specification rest
      match after with
      | [] => abandon "missing format character"
      | kind :: after =>
          if ← convert conversion kind then
            if (← get).stopped then return ()
            printOnce fuel after
          else
            let length := rest.length - after.length
            abandon ("%" ++ String.ofList (rest.take length) ++ ": invalid directive")
  | fuel + 1, c :: rest => do
      put [c]
      printOnce fuel rest

-- The format is used again as long as it takes arguments and some are left.
def printAll (format : List Char) : Nat → Printing Unit
  | 0 => return ()
  | fuel + 1 => do
      let before := (← get).arguments.length
      printOnce (format.length + 1) format
      let printer ← get
      if printer.stopped || printer.arguments.isEmpty || printer.arguments.length = before then
        return ()
      printAll format fuel

def plainOperands (arguments : List String) : Action (List String) := do
  match arguments with
  | "--" :: rest => return rest
  | argument :: _ =>
      match argument.toList with
      | '-' :: c :: _ => fail ("Illegal option -" ++ c.toString)
      | _ => return arguments
  | [] => return []

def printf (arguments : List String) : Action Nat := do
  match ← plainOperands arguments with
  | [] => fail "usage: printf format [arg ...]"
  | format :: arguments =>
      let (_, printer) ← (printAll format.toList (arguments.length + 1)).run { arguments }
      emit (String.ofList printer.text.reverse)
      return printer.status

end Acceptance.Shell.Builtin
