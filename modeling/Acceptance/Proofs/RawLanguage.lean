import Acceptance.Cli.Program
import Acceptance.Proofs.WrittenOptions

namespace Acceptance.Cli

-- The language in the raw arguments. Some arguments look as if they named a language.

variable {level : Level} {found next : Matches} {argument : String} {rest arguments : List String}
  {option : Name} {attached : Option String} {c : Char} {text : List Char}

def attachedLanguage? (argument : String) : Option String :=
  if "--lang=".toList.isPrefixOf argument.toList then
    some (String.ofList (argument.toList.drop "--lang=".toList.length))
  else none

-- The languages that the arguments seem to name, in order. The last one may lack its value.
def languageMarks : List String → List (Option String)
  | [] => []
  | argument :: rest =>
      if argument = "--lang" then rest.head? :: languageMarks rest
      else (attachedLanguage? argument).toList.map some ++ languageMarks rest

theorem unmarked (none : languageMarks arguments = []) : "--lang" ∉ arguments := by
  induction arguments with
  | nil => exact List.not_mem_nil
  | cons argument rest ih =>
      rw [languageMarks] at none
      split at none
      · cases none
      · rename_i other
        have later := ih (List.append_eq_nil_iff.mp none).2
        exact fun member => (List.mem_cons.mp member).elim (other ·.symm) later

-- The options with their values, also one that has its value but is not taken yet.
def Matches.entries (found : Matches) : List (Name × String) :=
  match found.pending with
  | some (option, some value) => found.taken ++ [(option, value)]
  | _ => found.taken

-- The languages that have been given when some arguments are still to be read, and those that the
-- rest seems to name.
def spoken (found : Matches) (arguments : List String) : List (Option String) :=
  (valuesOf found.entries .language).map some ++
    (if found.pending = some (.language, none) then [arguments.head?] else []) ++
    languageMarks arguments

-- The languages that a reading has found, and those that the arguments of the next command seem
-- to name.
def Reading.spoken : Reading → List (Option String)
  | .finished found => (valuesOf found.taken .language).map some
  | .command found _ rest => (valuesOf found.entries .language).map some ++ languageMarks rest

end Acceptance.Cli
