import Acceptance.Toml.Moment
import Acceptance.Toml.Node
import Acceptance.Toml.Quoted

namespace Acceptance.Toml

-- Passes over blanks, line ends and comments. Inside a comment only a line end counts.
def skipTrivia : Bool → List Char → Option (List Char)
  | _, [] => some []
  | _, '\n' :: rest => skipTrivia false rest
  | _, '\r' :: '\n' :: rest => skipTrivia false rest
  | true, c :: rest => if isPlain c then skipTrivia true rest else none
  | false, c :: rest =>
      if c = '#' then skipTrivia true rest
      else if isGap c then skipTrivia false rest
      else some (c :: rest)

def skipGap (text : List Char) : List Char := text.dropWhile isGap

-- Passes over the end of a line and whatever comes before the next statement.
def endLine? (text : List Char) : Option (List Char) :=
  match skipGap text with
  | [] => some []
  | '#' :: rest => skipTrivia true rest
  | rest => if isLineEnd rest then skipTrivia false rest else none

def isBare (c : Char) : Bool := c.isAlphanum || c == '_' || c == '-'

def readKeyPart? (text : List Char) : Reading :=
  match text with
  | '"' :: rest => readBasic 0 rest
  | '\'' :: rest => readLiteral rest
  | _ =>
      match text.takeWhile isBare with
      | [] => none
      | part => some (part, text.dropWhile isBare)

-- The parts of a key, the last one apart from those before it.
structure Key where
  path : List String
  last : String
  deriving DecidableEq, Repr

-- The parts of a key, at most `fuel` of them.
def readKey? : Nat → List Char → Option (Key × List Char)
  | 0, _ => none
  | fuel + 1, text =>
      match readKeyPart? (skipGap text) with
      | none => none
      | some (part, rest) =>
          match skipGap rest with
          | '.' :: more =>
              (readKey? fuel more).map fun (key, rest) =>
                ({ key with path := String.ofList part :: key.path }, rest)
          | rest => some ({ path := [], last := String.ofList part }, rest)

-- A key has at most this many parts, and arrays and tables nest at most this deep.
def nestingLimit : Nat := 80

def readKey (text : List Char) : Option (Key × List Char) := readKey? nestingLimit text

def isScalarChar (c : Char) : Bool :=
  c.isAlphanum || c == '+' || c == '-' || c == '_' || c == '.' || c == ':'

def scalarToken (text : List Char) : List Char × List Char :=
  (text.takeWhile isScalarChar, text.dropWhile isScalarChar)

def scalarText (text : List Char) : List Char × List Char :=
  match scalarToken text with
  | (token, ' ' :: digit :: rest) =>
      if afterDate? token = some [] ∧ digit.isDigit then
        let (time, rest) := scalarToken (digit :: rest)
        (token ++ ' ' :: time, rest)
      else (token, ' ' :: digit :: rest)
  | (token, rest) => (token, rest)

def scalar? (token : List Char) : Option Value :=
  if token = ['t', 'r', 'u', 'e'] then some (.boolean true)
  else if token = ['f', 'a', 'l', 's', 'e'] then some (.boolean false)
  else if isMoment token then some .moment
  else ((integer? token).map Value.integer).or ((quantity? token).map Value.quantity)

def readScalar? (text : List Char) : Option (Value × List Char) :=
  let (token, rest) := scalarText text
  (scalar? token).map fun value => (value, rest)

def readItems? (item : List Char → Option (Value × List Char)) :
    Nat → List Char → Option (List Value × List Char)
  | 0, _ => none
  | fuel + 1, text => do
      match ← skipTrivia false text with
      | ']' :: rest => return ([], rest)
      | text =>
          let (value, rest) ← item text
          match ← skipTrivia false rest with
          | ',' :: rest =>
              let (values, rest) ← readItems? item fuel rest
              return (value :: values, rest)
          | ']' :: rest => return ([value], rest)
          | _ => none

-- A key, the equality sign and a value. What may stand around the sign is passed over by `skip`.
def readEntry? (skip : List Char → Option (List Char))
    (item : List Char → Option (Value × List Char)) (text : List Char) :
    Option (Key × Value × List Char) := do
  let (key, rest) ← readKey text
  match ← skip rest with
  | '=' :: rest =>
      let (value, rest) ← item (← skip rest)
      return (key, value, rest)
  | _ => none

def readEntries? (item : List Char → Option (Value × List Char)) :
    Nat → Entries → List Char → Option (Entries × List Char)
  | 0, _, _ => none
  | fuel + 1, entries, text => do
      match ← skipTrivia false text with
      | '\x7d' :: rest => return (entries, rest)
      | text =>
          let (key, value, rest) ← readEntry? (skipTrivia false) item text
          let entries ← entries.insert key.path key.last value .header
          match ← skipTrivia false rest with
          | ',' :: rest => readEntries? item fuel entries rest
          | '\x7d' :: rest => return (entries, rest)
          | _ => none

def readValue? : Nat → List Char → Option (Value × List Char)
  | 0, text =>
      match text with
      | '[' :: _ | '\x7b' :: _ => none
      | '"' :: _ | '\'' :: _ =>
          (readString? text).map fun (content, rest) => (.text (String.ofList content), rest)
      | _ => readScalar? text
  | depth + 1, text =>
      match text with
      | '[' :: rest =>
          (readItems? (readValue? depth) text.length rest).map fun (values, rest) =>
            (.array values, rest)
      | '\x7b' :: rest =>
          (readEntries? (readValue? depth) text.length [] rest).map fun (entries, rest) =>
            (.table (entryValues entries), rest)
      | '"' :: _ | '\'' :: _ =>
          (readString? text).map fun (content, rest) => (.text (String.ofList content), rest)
      | _ => readScalar? text

def readValue (text : List Char) : Option (Value × List Char) := readValue? nestingLimit text

inductive Statement where
  | entry (key : Key) (value : Value)
  | header (key : Key)
  | itemHeader (key : Key)

def readStatement? : List Char → Option (Statement × List Char)
  | '[' :: '[' :: text => do
      let (key, rest) ← readKey text
      match rest with
      | ']' :: ']' :: rest => return (.itemHeader key, rest)
      | _ => none
  | '[' :: text => do
      let (key, rest) ← readKey text
      match rest with
      | ']' :: rest => return (.header key, rest)
      | _ => none
  | text => do
      let (key, value, rest) ← readEntry? (fun text => some (skipGap text)) readValue text
      return (.entry key value, rest)

def readStatements? : Nat → List Char → Option (List Statement)
  | _, [] => some []
  | 0, _ => none
  | fuel + 1, text => do
      let (statement, rest) ← readStatement? text
      let rest ← endLine? rest
      let statements ← readStatements? fuel rest
      return statement :: statements

structure Draft where
  entries : Entries := []
  current : List String := []

def Draft.step (draft : Draft) : Statement → Option Draft
  | .entry key value =>
      (Entries.edit .implied (Entries.insert key.path key.last value) draft.current .header
        draft.entries).map fun entries => { draft with entries }
  | .header key =>
      (Entries.openTable key.path key.last .header draft.entries).map fun entries =>
        { entries, current := key.path ++ [key.last] }
  | .itemHeader key =>
      (Entries.openItem key.path key.last .header draft.entries).map fun entries =>
        { entries, current := key.path ++ [key.last] }

-- A byte order mark in front of the text counts for nothing.
def dropOrderMark : List Char → List Char
  | '\ufeff' :: rest => rest
  | text => text

def parse? (text : List Char) : Option (List (String × Value)) := do
  let text ← skipTrivia false (dropOrderMark text)
  let statements ← readStatements? text.length text
  let draft ← statements.foldlM Draft.step {}
  return entryValues draft.entries

end Acceptance.Toml
