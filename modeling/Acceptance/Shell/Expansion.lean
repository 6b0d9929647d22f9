import Acceptance.Shell.Arithmetic
import Acceptance.Shell.Fields
import Acceptance.Shell.State

namespace Acceptance.Shell

open Action

-- What words come to: parameters, commands and expressions are replaced by their values, the
-- result is cut into fields, and fields that are patterns become the names of files.

structure Style where
  fields : Bool := false
  quoted : Bool := false
  inPlace : Bool := false
  -- A tilde at the start has a meaning; in an assignment, also later.
  tilde : Bool := false
  assignment : Bool := false

structure Expander where
  word : Style → Word → Action (List Stretch)
  command : Option Command → Action (List Char)

def optionLetters : List String :=
  ["p", "u", "b", "a", "C", "E", "V", "v", "x", "s", "n", "m", "i", "I", "f", "e"]

def parameterPieces (state : State) (style : Style) (name : String) : List Piece :=
  let separators := state.lookup "IFS"
  let first := match separators with
    | some text => (text.toList.head?).map fun c => Piece.glyph ⟨c, style.quoted⟩
    | none => some (.glyph ⟨' ', style.quoted⟩)
  let between := if !style.fields || (style.quoted && name = "*") then first
    else if style.quoted || separators.isSome then some .boundary
    else first
  let texts := state.parameters.map (Piece.ofText style.quoted)
  (List.intersperse between.toList texts).flatten

def valueOf (style : Style) (name : String) : Action (Option (List Piece)) := do
  let state ← get
  let text (value : String) : Option (List Piece) := some (Piece.ofText style.quoted value)
  match name with
  | "$" => return text (toString state.number)
  | "?" => return text (toString state.status)
  | "#" => return text (toString state.parameters.length)
  | "!" => return state.lastJob.bind fun number => text (toString number)
  | "-" => return text (String.join (optionLetters.filter state.options.contains))
  | "@" | "*" => return some (parameterPieces state style name)
  | _ =>
      match name.toNat? with
      | some 0 => return text state.name
      | some (index + 1) => return state.parameters[index]?.bind text
      | none => return (state.lookup name).bind text

def missing {α : Type} (name message : String) : Action α := fail (name ++ ": " ++ message)

def cuttingOf (state : State) (style : Style) (name : String) : Cutting :=
  if !style.quoted then .atSeparators
  else if name = "@" && !state.parameters.isEmpty then .atBoundaries
  else .whole

def plainText (stretches : List Stretch) : String :=
  Piece.text (stretches.flatMap (·.pieces))

namespace Expander

variable (expander : Expander)

def parameter (style : Style) (name : String) (form : Form) (word : Word) :
    Action (List Stretch) := do
  let value ← valueOf style name
  let record (pieces : List Piece) : Action (List Stretch) := do
    return [{ pieces, cutting := cuttingOf (← get) style name }]
  let present (orEmpty : Bool) : Bool := value.any fun pieces => !orEmpty || !pieces.isEmpty
  let given := expander.word { style with tilde := true, inPlace := true } word
  let checked : Action (List Piece) := do
    match value with
    | some pieces => return pieces
    | none => if ← hasOption "u" then missing name "parameter not set" else return []
  match form with
  | .bad => fail "Bad substitution"
  | .plain => record (← checked)
  | .length =>
      let size := (← checked).length
      record (Piece.ofText style.quoted (toString size))
  | .fallback orEmpty => if present orEmpty then record (value.getD []) else given
  | .substitute orEmpty => if present orEmpty then given else return []
  | .demand orEmpty =>
      if present orEmpty then record (value.getD [])
      else
        let message := plainText (← expander.word { tilde := true } word)
        if word.isEmpty then
          missing name (if orEmpty then "parameter not set or null" else "parameter not set")
        else missing name message
  | .assign orEmpty =>
      if present orEmpty then record (value.getD [])
      else
        let text := plainText (← expander.word { tilde := true } word)
        if !isName name then fail (name ++ ": bad variable name")
        assign name text
        record (Piece.ofText style.quoted text)
  | .trim atEnd longest =>
      let pieces ← checked
      let pattern := Piece.glyphs
        ((← expander.word { tilde := true } word).flatMap (·.pieces))
      let text := (Piece.glyphs pieces).map (·.char)
      record (Piece.ofText style.quoted (String.ofList (Pattern.trim atEnd longest pattern text)))

def arithmetic (style : Style) (text : Word) : Action (List Stretch) := do
  let text := plainText (← expander.word { quoted := true } text)
  let state ← get
  match Arithmetic.evaluate state.lookup text.toList with
  | .ok (value, assigned) =>
      assigned.forM fun (name, value) => assign name (toString value)
      let cutting := if style.quoted then .whole else .atSeparators
      return [{ pieces := Piece.ofText style.quoted (toString value), cutting }]
  | .error (.malformed message) =>
      fail ("arithmetic expression: " ++ message ++ ": \"" ++ text ++ "\"")
  | .error (.illegal text) => fail ("Illegal number: " ++ text)
  | .error (.fixed name) => fail (name ++ ": is read only")

def substitution (style : Style) (body : Option Command) : Action (List Stretch) := do
  let text ← expander.command body
  let text := ((text.filter (· != '\x00')).reverse.dropWhile (· == '\n')).reverse
  let cutting := if style.quoted then .whole else .atSeparators
  return [{ pieces := text.map fun c => .glyph ⟨c, style.quoted⟩, cutting }]

def homeOf (state : State) (name : String) : Option String :=
  if name.isEmpty then state.lookup "HOME"
  else if name = "root" then some "/root"
  else none

def tilde? (state : State) (assignment : Bool) : Word → Option (String × Word)
  | .plain '~' :: rest =>
      let stops (c : Char) : Bool := c == '/' || (assignment && c == ':')
      let name := (Word.plainStart rest).takeWhile (!stops ·)
      let after := rest.drop name.length
      let ends := match after with
        | [] => true
        | .plain _ :: _ => true
        | _ => false
      if ends then (homeOf state (String.ofList name)).map fun home => (home, after) else none
  | _ => none

def literalCutting (style : Style) (inQuotes : Bool) (glyph : Glyph) : Cutting :=
  if style.inPlace && !style.quoted && !inQuotes && !glyph.quoted then .atSeparators else .whole

structure Position where
  inQuotes : Bool := false
  atTilde : Bool
  beforeEquals : Bool
  -- Plain text that has not been recorded, the last stretch first, each with its last piece first.
  pending : List Stretch := []

def Position.add (position : Position) (cutting : Cutting) (piece : Piece) : Position :=
  { position with pending :=
      match position.pending with
      | last :: before =>
          if last.cutting = cutting then { last with pieces := piece :: last.pieces } :: before
          else { pieces := [piece], cutting } :: last :: before
      | [] => [{ pieces := [piece], cutting }] }

def settled (position : Position) : List Stretch :=
  (position.pending.map fun stretch =>
    { stretch with pieces := stretch.pieces.reverse }).reverse

def absorb (style : Style) : Position → Word → Position × Word
  | position, .plain c :: rest =>
      if c = '~' && position.atTilde && !position.inQuotes then (position, .plain c :: rest)
      else
        let isEquals := position.beforeEquals && c == '='
        let glyph : Glyph := ⟨c, false⟩
        let after := position.add (literalCutting style position.inQuotes glyph) (.glyph glyph)
        absorb style { after with
          atTilde := style.assignment && (isEquals || (c == ':' && !position.beforeEquals))
          beforeEquals := position.beforeEquals && !isEquals } rest
  | position, .quoted c :: rest =>
      absorb style { position.add .whole (.glyph ⟨c, true⟩) with atTilde := false } rest
  | position, word => (position, word)

def parts (style : Style) : Nat → Position → Word → Action (List Stretch)
  | 0, position, _ => return settled position
  | fuel + 1, position, word => do
      let (position, word) := absorb style position word
      let inner : Style := { style with
        quoted := style.quoted || position.inQuotes, tilde := false, assignment := false }
      let calm : Position := { position with atTilde := false, pending := [] }
      let continue_ (found : List Stretch) (rest : Word) : Action (List Stretch) := do
        return settled position ++ found ++ (← parts style fuel calm rest)
      match word with
      | [] => return settled position
      | .mark :: rest =>
          match position.inQuotes, rest with
          | false, .parameter "@" .plain [] :: .mark :: rest =>
              continue_ (← expander.parameter { inner with quoted := true } "@" .plain []) rest
          | _, _ =>
              parts style fuel { position.add .whole .mark with
                inQuotes := !position.inQuotes, atTilde := false } rest
      | .parameter name form word :: rest =>
          continue_ (← expander.parameter inner name form word) rest
      | .command body :: rest => continue_ (← expander.substitution inner body) rest
      | .arithmetic text :: rest => continue_ (← expander.arithmetic inner text) rest
      | part :: rest =>
          match tilde? (← get) style.assignment word with
          | some (home, rest) => continue_ [{ pieces := Piece.ofText true home }] rest
          | none =>
              let (position, _) := absorb style { position with atTilde := false } [part]
              parts style fuel position rest

def stretches (style : Style) (word : Word) : Action (List Stretch) :=
  expander.parts style (word.length + 1)
    { atTilde := style.tilde, beforeEquals := style.assignment } word

def listMatching (directory : String) (pattern : List Glyph) : Action (List String) := do
  match ← perform (.list directory) with
  | .error _ => return []
  | .ok names =>
      let hidden := match Pattern.resolve pattern with
        | glyph :: _ => glyph.char == '.'
        | [] => false
      let names := if hidden then "." :: ".." :: names else names
      return names.filter fun name =>
        (hidden || name.toList.head? != some '.') && Pattern.covers pattern name.toList

def isSlash (glyph : Glyph) : Bool := glyph.char == '/'

def matchPaths : Nat → String → List Glyph → Action (List String)
  | 0, _, _ => return []
  | fuel + 1, path, pattern => do
      let start := pattern.takeWhile isSlash
      let part := (pattern.drop start.length).takeWhile (!isSlash ·)
      let rest := pattern.drop (start.length + part.length)
      let path := path ++ String.ofList (start.map (·.char))
      if !Pattern.isActive part then
        let path := path ++ String.ofList ((Pattern.resolve part).map (·.char))
        if rest.isEmpty then
          match ← perform (.inspect path false) with
          | .ok _ => return [path]
          | .error _ => return []
        else matchPaths fuel path rest
      else
        let names ← listMatching (if path.isEmpty then "." else path) part
        if rest.isEmpty then return names.map (path ++ ·)
        else
          let found ← names.mapM fun name => matchPaths fuel (path ++ name) rest
          return found.flatten

def pathsOf (pieces : List Piece) : Action (List String) := do
  let glyphs := Piece.glyphs pieces
  let plain := [String.ofList (glyphs.map (·.char))]
  if (← hasOption "f") || !Pattern.isActive glyphs then return plain
  let paths ← matchPaths (glyphs.length + 1) "" glyphs
  if paths.isEmpty then return plain
  return paths.mergeSort fun left right => decide (left ≤ right)

def fields (word : Word) : Action (List String) := do
  let stretches ← expander.stretches { fields := true, tilde := true } word
  let separators := (← get).separators
  let paths ← (Fields.split separators none stretches).mapM pathsOf
  return paths.flatten

def text (style : Style) (word : Word) : Action String :=
  return plainText (← expander.stretches style word)

def pattern (word : Word) : Action (List Glyph) := do
  return Piece.glyphs ((← expander.stretches { tilde := true } word).flatMap (·.pieces))

end Expander
end Acceptance.Shell
