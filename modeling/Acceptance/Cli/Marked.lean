import Acceptance.Text.Visible

namespace Acceptance.Cli

-- Texts of which some parts stand out on a terminal that shows colours.

inductive Mark where
  | heading
  | literal
  | fault
  | invalid
  deriving DecidableEq, Repr

namespace Mark

def codes : Mark → List String
  | .heading => ["1", "4"]
  | .literal => ["1"]
  | .fault => ["1", "31"]
  | .invalid => ["33"]

def sequence (code : String) : String := "\x1b[" ++ code ++ "m"

def start (mark : Mark) : String := String.join (mark.codes.map sequence)

def reset : String := sequence "0"

end Mark

structure Part where
  text : String
  mark : Option Mark := none
  deriving DecidableEq, Repr

namespace Part

def plain (text : String) : Part := { text }

def heading (text : String) : Part := { text, mark := some .heading }

def literal (text : String) : Part := { text, mark := some .literal }

def fault (text : String) : Part := { text, mark := some .fault }

def invalid (text : String) : Part := { text, mark := some .invalid }

def styled (part : Part) : String :=
  match part.mark with
  | some mark => mark.start ++ part.text ++ Mark.reset
  | none => part.text

end Part

instance : Coe String Part := ⟨Part.plain⟩

abbrev Marked := List Part

namespace Marked

def plain (marked : Marked) : String := String.join (marked.map (·.text))

def styled (marked : Marked) : String := String.join (marked.map Part.styled)

-- The text as it is printed. Without colours no control sequence is let through, wherever it
-- comes from.
def shown (colored : Bool) (marked : Marked) : String :=
  if colored then marked.styled else Text.visible marked.styled

end Marked
end Acceptance.Cli
