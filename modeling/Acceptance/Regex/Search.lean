import Acceptance.Regex.Attempt
import Acceptance.Regex.Threads

namespace Acceptance.Regex

-- How many steps a trial may take before the text is gone through in the steady way. There is
-- no other way to match references.
def patienceFor (regex : Regex) (subject : Subject) : Nat :=
  if regex.hasReference then 1000000000000 else 1000 + 16 * subject.size

def matchAt (regex : Regex) (subject : Subject) (start : Nat) : Option Match :=
  match regex.attempt subject start (regex.patienceFor subject) with
  | (_, 0) => regex.threadFrom subject true start
  | (found, _) => found

def search (regex : Regex) (subject : Subject) (start : Nat) : Option Match :=
  match regex.attemptFrom subject (subject.size + 1 - start) start (regex.patienceFor subject) with
  | (_, 0) => regex.threadFrom subject false start
  | (found, _) => found

def isIn (regex : Regex) (subject : Subject) : Bool := (regex.search subject 0).isSome

end Acceptance.Regex
