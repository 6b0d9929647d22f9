import Acceptance.Locale
import Acceptance.Text.Replace

namespace Acceptance

inductive Style where
  | red
  | green
  | yellow
  | blue
  | cyan
  | dimmed
  | boldGreen
  | boldYellow
  | boldCyan
  deriving DecidableEq, Repr

namespace Style

def codes : Style → String
  | .red => "31"
  | .green => "32"
  | .yellow => "33"
  | .blue => "34"
  | .cyan => "36"
  | .dimmed => "2"
  | .boldGreen => "1;32"
  | .boldYellow => "1;33"
  | .boldCyan => "1;36"

def start (style : Style) : String := "\x1b[" ++ style.codes ++ "m"

def reset : String := "\x1b[0m"

def apply (style : Style) (text : String) : String :=
  let kept := Text.replaceAll reset.toList (reset ++ style.start).toList text.toList
  style.start ++ String.ofList kept ++ reset

end Style

structure Presentation where
  locale : Locale := .english
  colored : Bool := false
  deriving DecidableEq, Repr

def Presentation.paint (shown : Presentation) (style : Style) (text : String) : String :=
  if shown.colored then style.apply text else text

end Acceptance
