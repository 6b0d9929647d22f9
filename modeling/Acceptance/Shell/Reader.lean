import Acceptance.Kernel.Program
import Acceptance.Shell.Script

namespace Acceptance.Shell

open Kernel (Turn rounds endless)

inductive Fault where
  | starved
  | refused (line : Nat) (message : String)

inductive Arrow where
  | file (access : Access)
  | copy
  | document (strip : Bool)

inductive Token where
  | finish
  | newline
  | sign (text : String)
  | word (parts : Word) (quoted : Bool)
  | redirect (descriptor : Nat) (arrow : Arrow)

namespace Token

def display : Token → String
  | .finish => "end of file"
  | .newline => "newline"
  | .sign text => "\"" ++ text ++ "\""
  | .word _ _ => "word"
  | .redirect _ _ => "redirection"

def isSign (token : Token) (text : String) : Bool :=
  match token with
  | .sign text' => text' == text
  | _ => false

def isNewline : Token → Bool
  | .newline => true
  | _ => false

def isFinish : Token → Bool
  | .finish => true
  | _ => false

end Token

structure Pending where
  number : Nat
  delimiter : List Char
  strip : Bool
  literal : Bool

structure Replaced where
  name : String
  left : Nat
  -- The text ends in a blank, so that the word after it may be an alias too.
  continues : Bool

structure Reader where
  rest : List Char
  complete : Bool := true
  line : Nat := 1
  token : Token := .newline
  pushed : Bool := false
  pending : List Pending := []
  documents : List (Nat × Word) := []
  fresh : Nat := 0
  aliases : List (String × String) := []
  replaced : List Replaced := []

abbrev Parse := StateT Reader (Except Fault)

namespace Parse

def refuse {α : Type} (message : String) : Parse α := fun reader =>
  .error (.refused reader.line ("Syntax error: " ++ message))

def countLine : Parse Unit := modify fun reader => { reader with line := reader.line + 1 }

def next? : Parse (Option Char) := fun reader =>
  match reader.rest with
  | c :: rest => .ok (some c, { reader with rest })
  | [] => if reader.complete then .ok (none, reader) else .error .starved

def unread : Option Char → Parse Unit
  | some c => modify fun reader => { reader with rest := c :: reader.rest }
  | none => pure ()

-- Skips line ends that a backslash takes away, and counts them.
def skipJoins : List Char → Nat → List Char × Nat
  | '\\' :: '\n' :: rest, line => skipJoins rest (line + 1)
  | rest, line => (rest, line)

def joined? : Parse (Option Char) := fun reader =>
  let (rest, line) := skipJoins reader.rest reader.line
  let reader := { reader with rest, line }
  match rest with
  | ['\\'] => if reader.complete then next? reader else .error .starved
  | _ => next? reader

end Parse

open Parse

inductive Quoting where
  | base
  | double
  | single
  | arithmetic
  deriving DecidableEq

structure Frame where
  quoting : Quoting
  double : Bool := false
  nested : Nat := 0
  doubleNested : Nat := 0
  inner : Bool := false
  ends : Bool := false
  depth : Nat := 0

-- A part that is not complete.
inductive Unfinished where
  | parameter (name : String) (form : Form)
  | arithmetic

structure Draft where
  frame : Frame
  outer : List Frame := []
  parts : List Part := []
  unfinished : List (Unfinished × List Part) := []
  quoted : Bool := false

namespace Draft

def put (draft : Draft) (part : Part) : Draft := { draft with parts := part :: draft.parts }

def putChar (draft : Draft) (c : Char) : Draft :=
  match draft.frame.quoting with
  | .base | .arithmetic => draft.put (.plain c)
  | .double | .single => draft.put (.quoted c)

def enter (draft : Draft) (frame : Frame) : Draft :=
  { draft with frame, outer := draft.frame :: draft.outer }

def leave (draft : Draft) : Draft :=
  match draft.outer with
  | frame :: outer => { draft with frame, outer }
  | [] => draft

def start (draft : Draft) (part : Unfinished) : Draft :=
  { draft with parts := [], unfinished := (part, draft.parts) :: draft.unfinished }

def complete (draft : Draft) : Draft :=
  match draft.unfinished with
  | (.parameter name form, parts) :: unfinished =>
      { draft with
        parts := .parameter name form draft.parts.reverse :: parts, unfinished }
  | (.arithmetic, parts) :: unfinished =>
      { draft with parts := .arithmetic draft.parts.reverse :: parts, unfinished }
  | [] => draft

def splits (draft : Draft) : Bool := draft.frame.quoting == .base && draft.frame.nested == 0

end Draft

inductive Purpose where
  | word
  | delimiter
  | document (pending : Pending)

namespace Purpose

def isDocument : Purpose → Bool
  | .document _ => true
  | _ => false

def isDelimiter : Purpose → Bool
  | .delimiter => true
  | _ => false

end Purpose

def readEscape (purpose : Purpose) (draft : Draft) : Parse Draft := do
  match ← next? with
  | none => return draft.put (.quoted '\\')
  | some c =>
      let frame := draft.frame
      let keeps := frame.double && c != '\\' && c != '`' && c != '$' &&
        (c != '"' || (purpose.isDocument && frame.nested == 0)) &&
        (c != '}' || frame.nested == 0 ||
          (if frame.doubleNested != 0 then frame.inner else frame.double))
      let draft := if keeps then draft.put (.quoted '\\') else draft
      if c = '\n' then countLine
      return { draft.put (.quoted c) with quoted := true }

def readBackquoted (double : Bool) : Parse (List Char) :=
  rounds List.reverse (fun text => do
    match ← joined? with
    | some '`' => return .finished text.reverse
    | some '\\' =>
        match ← next? with
        | some c =>
            let bare := c == '\\' || c == '`' || c == '$' || (double && c == '"')
            return .again (c :: (if bare then text else '\\' :: text))
        | none => refuse "EOF in backquote substitution"
    | some c =>
        if c = '\n' then countLine
        return .again (c :: text)
    | none => refuse "EOF in backquote substitution") endless []

-- Reads a script of its own. What it announced and never brought is empty.
def readInner (script : Parse (Option Command)) (text : List Char) : Parse (Option Command) := do
  let outer ← get
  set { outer with
    rest := text, complete := true, line := 1, pushed := false, pending := [], replaced := [] }
  let body ← script
  modify fun inner => { outer with
    documents := inner.pending.map (fun pending => (pending.number, [])) ++ inner.documents
    fresh := inner.fresh }
  return body

def readEnclosed (script : Parse (Option Command)) (close : Parse Unit) :
    Parse (Option Command) := do
  let outer ← get
  set { outer with pushed := false, pending := [] }
  let body ← script
  close
  modify fun inner => { inner with
    documents := inner.pending.map (fun pending => (pending.number, [])) ++ inner.documents
    pending := outer.pending, token := outer.token, pushed := outer.pushed }
  return body

def readWhile (holds : Char → Bool) : Parse (List Char × Option Char) :=
  rounds (fun text => (text.reverse, none)) (fun text => do
    match ← joined? with
    | some c =>
        if holds c then return .again (c :: text) else return .finished (text.reverse, some c)
    | none => return .finished (text.reverse, none)) endless []

def readForm (c : Option Char) : Parse Form := do
  let simple (orEmpty : Bool) (c : Option Char) : Form :=
    match c with
    | some '}' => .plain
    | some '-' => .fallback orEmpty
    | some '+' => .substitute orEmpty
    | some '?' => .demand orEmpty
    | some '=' => .assign orEmpty
    | _ => .bad
  let doubled (c : Char) : Parse Bool := do
    let following ← joined?
    if following = some c then return true
    unread following
    return false
  match c with
  | some ':' => return simple true (← joined?)
  | some '%' => return .trim true (← doubled '%')
  | some '#' => return .trim false (← doubled '#')
  | c => return simple false c

def readBraced : Parse (String × Form) := do
  let named (c : Char) (holds : Char → Bool) : Parse (String × Option Char) := do
    let (text, following) ← readWhile holds
    return (String.ofList (c :: text), following)
  let finish (length : Bool) (name : String) (c : Option Char) : Parse (String × Form) := do
    if length then
      unread c
      return (name, if c = some '}' then .length else .bad)
    else return (name, ← readForm c)
  let name? (length : Bool) (c : Option Char) : Parse (Option (String × Form)) := do
    match c with
    | some c =>
        if isNameStart c then
          let (name, following) ← named c isNamePart
          return some (← finish length name following)
        else if c.isDigit then
          let (name, following) ← named c Char.isDigit
          return some (← finish length name following)
        else return none
    | none => return none
  let c ← joined?
  match ← name? false c with
  | some result => return result
  | none =>
      match c with
      | some '#' =>
          let second ← joined?
          match ← name? true second with
          | some result => return result
          | none =>
              let third ← joined?
              if second = some '}' || third != some '}' then
                unread third
                return ("#", ← readForm second)
              else
                unread third
                match second with
                | some c => return (c.toString, if isSpecial c then .length else .bad)
                | none => return ("", .bad)
      | some c =>
          if c = '}' then
            unread (some c)
            return ("", .bad)
          else
            let following ← joined?
            if isSpecial c then return (c.toString, ← readForm following)
            else
              unread following
              return ("", .bad)
      | none => return ("", .bad)

def readDollar (script : Parse (Option Command)) (close : Parse Unit) (purpose : Purpose)
    (draft : Draft) : Parse Draft := do
  let c ← joined?
  let bare := do
    unread c
    return draft.putChar '$'
  if purpose.isDelimiter then bare
  else
    match c with
    | some '(' =>
        let following ← joined?
        if following = some '(' then
          return (draft.start .arithmetic).enter { quoting := .arithmetic, double := true }
        else
          unread following
          return draft.put (.command (← readEnclosed script close))
    | some '{' =>
        let (name, form) ← readBraced
        if form = .plain then return draft.put (.parameter name .plain [])
        else
          let frame := draft.frame
          let quoting := match form with
            | .trim _ _ => .base
            | _ => if frame.quoting = .arithmetic then .double else frame.quoting
          let draft := draft.start (.parameter name form)
          let draft := if quoting != frame.quoting || frame.inner then
              draft.enter { quoting, ends := true, double := quoting != .base }
            else draft
          let frame := draft.frame
          return { draft with frame := { frame with
            nested := frame.nested + 1
            doubleNested := frame.doubleNested + (if frame.double then 1 else 0) } }
    | some c =>
        if isNameStart c then
          let (text, following) ← readWhile isNamePart
          unread following
          return draft.put (.parameter (String.ofList (c :: text)) .plain [])
        else if isSpecial c then return draft.put (.parameter c.toString .plain [])
        else bare
    | none => bare

def readMark (purpose : Purpose) (draft : Draft) (c : Char) : Draft :=
  let toggled (draft : Draft) : Draft :=
    let frame := draft.frame
    if c = '"' && frame.nested != 0 then
      { draft with frame := { frame with inner := !frame.inner } }
    else draft
  let mark (draft : Draft) : Draft := if purpose.isDocument then draft else draft.put .mark
  let frame := draft.frame
  match frame.quoting with
  | .base =>
      let frame := if c = '"' then { frame with quoting := .double, double := true }
        else { frame with quoting := .single }
      mark (toggled { draft with frame })
  | _ =>
      if purpose.isDocument && frame.nested == 0 then draft.putChar c
      else
        let frame := if frame.doubleNested = 0 then
            { frame with quoting := .base, double := false }
          else frame
        mark (toggled { draft with frame, quoted := true })

def readBrace (draft : Draft) : Draft :=
  let frame := draft.frame
  if frame.inner || frame.nested = 0 then draft.putChar '}'
  else
    let draft := draft.complete
    if frame.nested = 1 && frame.ends then draft.leave
    else
      { draft with frame := { frame with
        nested := frame.nested - 1, doubleNested := frame.doubleNested - 1 } }

def readParenthesis (draft : Draft) : Parse Draft := do
  let frame := draft.frame
  if frame.depth != 0 then
    return { draft.putChar ')' with frame := { frame with depth := frame.depth - 1 } }
  else
    let following ← joined?
    if following = some ')' then return draft.complete.leave
    else
      unread following
      return draft.putChar ')'

def atDelimiter (pending : Pending) (c : Option Char) : Parse (Bool × Option Char) := do
  unread c
  let reader ← get
  let text := if pending.strip then reader.rest.dropWhile (· == '\t') else reader.rest
  let size := pending.delimiter.length
  let rest := text.drop size
  if !reader.complete && rest.isEmpty && text.isPrefixOf pending.delimiter then
    throw .starved
  else if pending.delimiter.isPrefixOf text && (rest.isEmpty || rest.head? = some '\n') then
    set { reader with rest := rest.drop 1, line := reader.line + 1 }
    return (true, none)
  else
    set { reader with rest := text }
    return (false, ← next?)

def isOperator (c : Char) : Bool := "<>();&| \t".toList.contains c

-- One character of a word. The word ends with a character that does not belong to it.
def readPiece (script : Parse (Option Command)) (close : Parse Unit) (purpose : Purpose)
    (c : Option Char) (draft : Draft) :
    Parse (Turn (Option Char × Draft) (Option Char × Draft)) := do
  let go (draft : Draft) : Parse (Turn (Option Char × Draft) (Option Char × Draft)) := do
    let c ← if draft.frame.quoting = .single then next? else joined?
    return .again (c, draft)
  let quoting := draft.frame.quoting
  match c with
  | none => return .finished (none, draft)
  | some '\n' =>
      if draft.splits then return .finished (c, draft)
      else
        countLine
        let draft := draft.putChar '\n'
        match purpose with
        | .document pending =>
            let c ← if quoting = .single then next? else joined?
            match ← atDelimiter pending c with
            | (true, _) => return .finished (none, draft)
            | (false, c) => return .again (c, draft)
        | _ => go draft
  | some c =>
      if quoting = .single then
        if c = '\'' then go (readMark purpose draft c) else go (draft.putChar c)
      else if c = '\\' then go (← readEscape purpose draft)
      else if c = '`' then
        if purpose.isDelimiter then go { draft.putChar c with quoted := true }
        else
          let text ← readBackquoted draft.frame.double
          go (draft.put (.command (← readInner script text)))
      else if c = '$' then go (← readDollar script close purpose draft)
      else if c = '}' then go (readBrace draft)
      else if quoting = .arithmetic then
        if c = '(' then
          let frame := draft.frame
          go { draft.putChar c with frame := { frame with depth := frame.depth + 1 } }
        else if c = ')' then go (← readParenthesis draft)
        else go (draft.putChar c)
      else if c = '"' || (c = '\'' && quoting = .base) then go (readMark purpose draft c)
      else if draft.splits && isOperator c then return .finished (some c, draft)
      else go (draft.putChar c)

-- Reads to the end of a word, which has to be complete then.
def readParts (script : Parse (Option Command)) (close : Parse Unit) (purpose : Purpose)
    (first : Option Char) (quoting : Quoting) : Parse (Option Char × Draft) := do
  let start : Draft := { frame := { quoting, double := quoting == .double } }
  let (c, draft) ← rounds id (fun (c, draft) => readPiece script close purpose c draft) endless
    (first, start)
  if draft.frame.quoting = .arithmetic then refuse "Missing '))'"
  if draft.frame.quoting != .base && !purpose.isDocument then
    refuse "Unterminated quoted string"
  if draft.frame.nested != 0 then refuse "Missing '\x7d'"
  return (c, draft)

def readDocument (script : Parse (Option Command)) (close : Parse Unit) (pending : Pending) :
    Parse Unit := do
  let c ← if pending.literal then next? else joined?
  let parts ← match ← atDelimiter pending c with
    | (true, _) => pure []
    | (false, c) =>
        let (_, draft) ← readParts script close (.document pending) c
          (if pending.literal then .single else .double)
        pure draft.parts.reverse
  modify fun reader => { reader with documents := (pending.number, parts) :: reader.documents }

def readDocuments (script : Parse (Option Command)) (close : Parse Unit) : Parse Unit := do
  let pending := (← get).pending
  modify fun reader => { reader with pending := [] }
  pending.forM (readDocument script close)

def readArrow (c : Char) : Parse Arrow := do
  let following ← joined?
  if c = '>' then
    match following with
    | some '>' => return .file .append
    | some '|' => return .file .force
    | some '&' => return .copy
    | other =>
        unread other
        return .file .output
  else
    match following with
    | some '<' =>
        let dash ← joined?
        if dash = some '-' then return .document true
        unread dash
        return .document false
    | some '&' => return .copy
    | some '>' => return .file .both
    | other =>
        unread other
        return .file .input

def readWord (script : Parse (Option Command)) (close : Parse Unit) (delimiter : Bool) (c : Char) :
    Parse Token := do
  let (ending, draft) ← readParts script close (if delimiter then .delimiter else .word) (some c)
    .base
  let parts := draft.parts.reverse
  let descriptor? := match parts with
    | [] => some none
    | [.plain c] => if c.isDigit then some (some (c.toNat - 48)) else none
    | _ => none
  match ending, descriptor? with
  | some c, some descriptor =>
      if (c = '<' || c = '>') && !draft.quoted then
        return .redirect (descriptor.getD (if c = '>' then 1 else 0)) (← readArrow c)
      else
        unread ending
        return .word parts draft.quoted
  | _, _ =>
      unread ending
      return .word parts draft.quoted

def readSign (c : Char) : Parse Token := do
  let following ← joined?
  if following = some c then return .sign (String.ofList [c, c])
  unread following
  return .sign c.toString

def readFresh (script : Parse (Option Command)) (close : Parse Unit) (delimiter : Bool) :
    Parse Token :=
  rounds (fun _ => .finish) (fun _ => do
    match ← joined? with
    | none => return .finished .finish
    | some '\n' =>
        countLine
        return .finished .newline
    | some '#' =>
        let (_, ending) ← rounds (fun _ => ((), none)) (fun _ => do
          match ← next? with
          | some '\n' => return .finished ((), some '\n')
          | some _ => return .again ()
          | none => return .finished ((), none)) endless ()
        unread ending
        return .again ()
    | some c =>
        if c = ' ' || c = '\t' then return .again ()
        else if c = '&' || c = '|' || c = ';' then return .finished (← readSign c)
        else if c = '(' || c = ')' then return .finished (.sign c.toString)
        else return .finished (← readWord script close delimiter c)) endless ()

structure Check where
  newlines : Bool := false
  keywords : Bool := false
  aliases : Bool := false
  delimiter : Bool := false

def Check.command : Check := { keywords := true, aliases := true }

def Check.laterCommand : Check := { newlines := true, keywords := true, aliases := true }

def keywords : List String :=
  ["!", "case", "do", "done", "elif", "else", "esac", "fi", "for", "if", "in", "then", "until",
    "while", "\x7b", "\x7d"]

-- The alias that a word stands for, unless it is just being read.
def findAlias (word : String) : Parse (Option String) := do
  let reader ← get
  if reader.aliases.isEmpty then return none
  let left := reader.rest.length
  if reader.replaced.any fun text => text.name == word && text.left ≤ left then return none
  return reader.aliases.lookup word

def takeFresh (script : Parse (Option Command)) (close : Parse Unit) (check : Check) :
    Parse Token := do
  let reader ← get
  if reader.pushed then
    set { reader with pushed := false }
    return reader.token
  readFresh script close check.delimiter

def readToken (script : Parse (Option Command)) (close : Parse Unit) (check : Check) :
    Parse Token := do
  let token ← rounds (fun _ => .finish) (fun _ => do
    let reader ← get
    let before := if reader.replaced.isEmpty then 0 else reader.rest.length
    let token ← takeFresh script close check
    let reader ← get
    let exposed := reader.replaced.any fun text =>
      text.continues && text.left < before && reader.rest.length ≤ text.left
    match token with
    | .newline =>
        if check.newlines then
          readDocuments script close
          return .again ()
        else return .finished token
    | .word parts false =>
        match Word.plain? parts with
        | none => return .finished token
        | some text =>
            if check.keywords && keywords.contains text then return .finished (.sign text)
            else if check.aliases || exposed then
              match ← findAlias text with
              | some value =>
                  modify fun reader => { reader with
                    replaced := { name := text, left := reader.rest.length, continues :=
                      (value.toList.getLast?).any fun c => c = ' ' || c = '\t' } :: reader.replaced
                    rest := value.toList ++ reader.rest }
                  return .again ()
              | none => return .finished token
            else return .finished token
    | _ => return .finished token) endless ()
  modify fun reader => { reader with token }
  return token

end Acceptance.Shell
