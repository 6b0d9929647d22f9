import Acceptance.Regex.Basic

namespace Acceptance

-- Matching by trial: at every choice the first way is tried, and then the others.

structure Progress where
  index : Nat
  groups : List Span := []

-- What a trial has come to: the best end so far, and how many steps may still be taken.
structure Trial where
  best : Option Progress := none
  patience : Nat

abbrev Continuation := Progress → Trial → Trial

namespace Regex

-- Whether more steps are of no use: there is no longer match, or no patience.
def isOver (subject : Subject) (trial : Trial) : Bool :=
  trial.patience == 0 || trial.best.any fun progress => subject.size ≤ progress.index

def keep : Continuation := fun progress trial =>
  match trial.best with
  | some other =>
      if other.index < progress.index then { trial with best := some progress } else trial
  | none => { trial with best := some progress }

-- Repetitions: as many as possible first. Each has to get further, apart from those that are
-- required.
def repeats (subject : Subject) (body : Progress → Continuation → Trial → Trial) :
    Nat → Nat → Option Nat → Progress → Continuation → Trial → Trial
  | 0, _, _, progress, next, trial => next progress trial
  | fuel + 1, least, most, progress, next, trial =>
      let more := most != some 0
      let trial := if more then
          body progress (fun after trial =>
            if after.index = progress.index && least = 0 then trial
            else repeats subject body fuel (least - 1) (most.map (· - 1)) after next trial) trial
        else trial
      if least != 0 || isOver subject trial then trial else next progress trial

def sameText (subject : Subject) (left right : List Char) : Bool :=
  if subject.caseless then left.map Char.toLower == right.map Char.toLower else left == right

def run (subject : Subject) : Regex → Progress → Continuation → Trial → Trial
  | .empty, progress, next, trial => next progress trial
  | .one holds, progress, next, trial =>
      if trial.patience = 0 then trial
      else
        let trial := { trial with patience := trial.patience - 1 }
        match subject.text[progress.index]? with
        | some c =>
            if subject.fits holds c then next { progress with index := progress.index + 1 } trial
            else trial
        | none => trial
  | .anchor place, progress, next, trial =>
      if subject.atAnchor progress.index place then next progress trial else trial
  | .sequence first second, progress, next, trial =>
      run subject first progress (fun progress trial => run subject second progress next trial)
        trial
  | .choice first second, progress, next, trial =>
      let trial := run subject first progress next trial
      if isOver subject trial then trial else run subject second progress next trial
  | .many body least most, progress, next, trial =>
      repeats subject (fun progress next trial => run subject body progress next trial)
        (subject.size - progress.index + least + 1) least most progress next trial
  | .group number body, progress, next, trial =>
      let start := progress.index
      run subject body progress (fun progress trial =>
        let span : Span := { number, start, finish := progress.index }
        next { progress with groups := span :: progress.groups.filter (·.number != number) } trial)
        trial
  | .again number, progress, next, trial =>
      match progress.groups.find? (·.number == number) with
      | some span =>
          let wanted := subject.slice span.start span.finish
          let finish := progress.index + wanted.length
          if finish ≤ subject.size && sameText subject wanted (subject.slice progress.index finish)
            then next { progress with index := finish } trial
          else trial
      | none => trial

def attempt (regex : Regex) (subject : Subject) (start patience : Nat) : Option Match × Nat :=
  let trial := run subject regex { index := start } keep { patience }
  (trial.best.map fun progress =>
    { start, finish := progress.index, groups := progress.groups }, trial.patience)

-- The first match from a position on, looked for as long as the patience lasts.
def attemptFrom (regex : Regex) (subject : Subject) : Nat → Nat → Nat → Option Match × Nat
  | 0, _, patience => (none, patience)
  | fuel + 1, start, patience =>
      match regex.attempt subject start patience with
      | (some found, patience) => (some found, patience)
      | (none, 0) => (none, 0)
      | (none, patience) => attemptFrom regex subject fuel (start + 1) patience

end Regex
end Acceptance
