import Acceptance.Regex.Basic

namespace Acceptance.Regex

-- Matching by threads that go through the text side by side.

inductive Step where
  | one (holds : Char → Bool)
  | anchor (place : Anchor)
  | jump (target : Nat)
  | fork (first second : Nat)
  | enter (number : Nat)
  | leave (number : Nat)
  | depart
  | arrive
  | accept

namespace Step

-- Steps that may be left out, so many times over. Each time has to get further.
def optional (copy : Array Step → Array Step) : Nat → Array Step → Array Step
  | 0, steps => steps
  | count + 1, steps =>
      let start := steps.size
      let steps := optional copy count
        ((copy ((steps.push .accept).push .depart)).push .arrive)
      steps.setIfInBounds start (.fork (start + 1) steps.size)

def emit : Regex → Array Step → Array Step
  | .empty, steps => steps
  | .one holds, steps => steps.push (.one holds)
  | .anchor place, steps => steps.push (.anchor place)
  | .sequence first second, steps => emit second (emit first steps)
  | .choice first second, steps =>
      let start := steps.size
      let steps := emit first (steps.push .accept)
      let middle := steps.size
      let steps := emit second (steps.push .accept)
      (steps.setIfInBounds start (.fork (start + 1) (middle + 1))).setIfInBounds middle
        (.jump steps.size)
  | .many body least most, steps =>
      let steps := Nat.repeat (emit body) least steps
      match most with
      | some most => optional (emit body) (most - least) steps
      | none =>
          let start := steps.size
          let steps := (emit body (steps.push .accept)).push (.jump start)
          steps.setIfInBounds start (.fork (start + 1) steps.size)
  | .group number body, steps => (emit body (steps.push (.enter number))).push (.leave number)
  | .again _, steps => steps

def all (regex : Regex) : Array Step := (emit regex #[]).push .accept

end Step

structure Thread where
  place : Nat := 0
  start : Nat
  entered : List (Nat × Nat) := []
  -- Where it has departed and not arrived, the last position first.
  departed : List Nat := []
  groups : List Span := []

namespace Thread

def next (thread : Thread) : Thread := { thread with place := thread.place + 1 }

def enter (thread : Thread) (number index : Nat) : Thread :=
  { thread with
    entered := (number, index) :: thread.entered.filter fun (other, _) => other != number }

def leave (thread : Thread) (number index : Nat) : Thread :=
  match thread.entered.lookup number with
  | some start =>
      let span : Span := { number, start, finish := index }
      { thread with groups := span :: thread.groups.filter fun other => other.number != number }
  | none => thread

end Thread

structure Front where
  threads : List Thread := []
  taken : Array Bool

namespace Front

def empty (steps : Array Step) : Front := { taken := Array.replicate steps.size false }

-- Adds a thread and those that it forks into. No step is taken twice, so there are at most as
-- many in a row as there are steps.
def add (steps : Array Step) (subject : Subject) (index : Nat) : Nat → Thread → Front → Front
  | 0, _, front => front
  | fuel + 1, thread, front =>
      if front.taken.getD thread.place true then front
      else
        let front := { front with taken := front.taken.setIfInBounds thread.place true }
        match steps[thread.place]? with
        | none => front
        | some (.jump target) => add steps subject index fuel { thread with place := target } front
        | some (.fork first second) =>
            add steps subject index fuel { thread with place := second }
              (add steps subject index fuel { thread with place := first } front)
        | some (.anchor place) =>
            if subject.atAnchor index place then add steps subject index fuel thread.next front
            else front
        | some (.enter number) =>
            add steps subject index fuel (thread.enter number index).next front
        | some (.leave number) =>
            add steps subject index fuel (thread.leave number index).next front
        | some .depart =>
            add steps subject index fuel
              { thread.next with departed := index :: thread.departed } front
        | some .arrive =>
            if thread.departed.head? = some index then front
            else add steps subject index fuel
              { thread.next with departed := thread.departed.tail } front
        | some (.one _) | some .accept => { front with threads := thread :: front.threads }

end Front

-- Lets a thread go on: it may complete a match, or take a character. A thread that starts later
-- than a match is of no use.
def proceed (steps : Array Step) (subject : Subject) (index : Nat)
    (state : Option Match × Front) (thread : Thread) : Option Match × Front :=
  let (found, front) := state
  if found.any (·.start < thread.start) then state
  else
    match steps[thread.place]?, subject.text[index]? with
    | some .accept, _ =>
        (some { start := thread.start, finish := index, groups := thread.groups }, front)
    | some (.one holds), some c =>
        if subject.fits holds c then
          (found, front.add steps subject (index + 1) (steps.size + 1) thread.next)
        else state
    | _, _ => state

-- Goes through the text from a position on. Until there is a match, one more thread starts at
-- every position, unless it has to start at the first one.
def goThrough (steps : Array Step) (subject : Subject) (fixed : Bool) :
    Nat → Nat → Option Match → Front → Option Match
  | 0, _, found, _ => found
  | fuel + 1, index, found, front =>
      let (found, front) := front.threads.reverse.foldl (proceed steps subject index)
        (found, Front.empty steps)
      if front.threads.isEmpty && (found.isSome || fixed) then found
      else
        let front := if found.isSome || fixed then front
          else front.add steps subject (index + 1) (steps.size + 1) { start := index + 1 }
        goThrough steps subject fixed fuel (index + 1) found front

def threadFrom (regex : Regex) (subject : Subject) (fixed : Bool) (start : Nat) : Option Match :=
  let steps := Step.all regex
  goThrough steps subject fixed (subject.size + 1 - start) start none
    ((Front.empty steps).add steps subject start (steps.size + 1) { start })

end Acceptance.Regex
