import Acceptance.Environment
import Acceptance.Text.Alphanumeric

namespace Acceptance.Command

-- Expansion of the program word of a command line.

def isNameChar (c : Char) : Bool := Text.isAlphanumeric c || c == '_'

-- The text in front of the first `mark`, and the text behind it.
def breakAt? (mark : Char) : List Char → Option (List Char × List Char)
  | [] => none
  | c :: rest =>
      if c = mark then some ([], rest)
      else (breakAt? mark rest).map fun (before, after) => (c :: before, after)

theorem breakAt?_length {mark : Char} {text before after : List Char}
    (found : breakAt? mark text = some (before, after)) : after.length < text.length := by
  induction text generalizing before with
  | nil => simp [breakAt?] at found
  | cons c rest ih =>
      simp only [breakAt?] at found
      split at found
      · simp only [Option.some.injEq, Prod.mk.injEq] at found
        simp [← found.2]
      · simp only [Option.map_eq_some_iff, Prod.mk.injEq] at found
        obtain ⟨⟨_, _⟩, inner, -, rfl⟩ := found
        exact Nat.lt_succ_of_lt (ih inner)

-- The name in front of the first `:-`, and the default behind it.
def breakAtDefault? : List Char → Option (List Char × List Char)
  | ':' :: '-' :: rest => some ([], rest)
  | c :: rest => (breakAtDefault? rest).map fun (name, default) => (c :: name, default)
  | [] => none

def nameAndDefault (inside : List Char) : List Char × Option (List Char) :=
  match breakAtDefault? inside with
  | some ([], _) | none => (inside, none)
  | some (name, default) => (name, some default)

def lookup? (env : Environment) (name : List Char) : Option (List Char) :=
  (env.get? (String.ofList name)).map String.toList

-- What stands for a braced name: its value, however empty, else its default.
def bracedValue? (env : Environment) (inside : List Char) : Option (List Char) :=
  let (name, default) := nameAndDefault inside
  (lookup? env name).or default

def expandVariables? (env : Environment) : List Char → Option (List Char)
  | [] => some []
  | '$' :: '\x7b' :: rest =>
      match found : breakAt? '\x7d' rest with
      | none => (expandVariables? env rest).map fun tail => '$' :: '\x7b' :: tail
      | some (inside, after) =>
          have := breakAt?_length found
          match bracedValue? env inside with
          | none => none
          | some value => (expandVariables? env after).map fun tail => value ++ tail
  | '$' :: '$' :: rest => (expandVariables? env rest).map fun tail => '$' :: tail
  | '$' :: rest =>
      let name := rest.takeWhile isNameChar
      if name.isEmpty then (expandVariables? env rest).map fun tail => '$' :: tail
      else
        match lookup? env name with
        | none => none
        | some value =>
            have := (List.dropWhile_suffix isNameChar (l := rest)).length_le
            (expandVariables? env (rest.dropWhile isNameChar)).map fun tail => value ++ tail
  | c :: rest => (expandVariables? env rest).map fun tail => c :: tail
termination_by text => text.length
decreasing_by all_goals simp only [List.length_cons] at *; omega

def expandTilde (env : Environment) (text : List Char) : List Char :=
  match text, env.home? with
  | ['~'], some home => home.toList
  | '~' :: '/' :: rest, some home => home.toList ++ '/' :: rest
  | _, _ => text

def expand? (env : Environment) (word : List Char) : Option (List Char) :=
  (expandVariables? env word).map fun expanded =>
    if expanded.head? = some '~' && word.head? ≠ some '~' then expanded
    else expandTilde env expanded

end Acceptance.Command
