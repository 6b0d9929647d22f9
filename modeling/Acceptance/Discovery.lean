import Acceptance.Case
import Acceptance.Fault
import Acceptance.FileTree.Access

namespace Acceptance

-- Discovery of cases: every directory directly below the tests root is one, also through a link,
-- and it is called by the text of its name.

def Case.ofEntry? (tree : FileTree) (root : String) (layout : Layout) (name : String) :
    Option Case :=
  let dir := Path.join root name
  if tree.isDirectory dir then some (Case.ofDirectory (Text.shown name) dir layout) else none

-- The cases of the entries one after the other. One that cannot be read ends it all.
def casesOf (tree : FileTree) (root : String) (layout : Layout) :
    List (Except IoError String) → Except IoError (List Case)
  | [] => .ok []
  | .error cause :: _ => .error cause
  | .ok name :: entries =>
      match casesOf tree root layout entries with
      | .error cause => .error cause
      | .ok cases => .ok ((Case.ofEntry? tree root layout name).toList ++ cases)

def discoverListed (tree : FileTree) (root : String) (layout : Layout)
    (listing : Except IoError (List (Except IoError String))) : Except Fault (List Case) :=
  if !tree.isDirectory root then .error (.missingRoot root)
  else
    match listing.bind (casesOf tree root layout) with
    | .error cause => .error (.discovery root cause)
    | .ok cases => .ok cases

-- How the root is read: to its end, not at all, or until an entry cannot be read.
inductive Reading where
  | whole
  | refused (cause : IoError)
  | broken (after : Nat) (cause : IoError)
  deriving DecidableEq, Repr

def Reading.listing (reading : Reading) (listed : Except IoError (List String)) :
    Except IoError (List (Except IoError String)) :=
  match reading with
  | .whole => listed.map (·.map .ok)
  | .refused cause => .error cause
  | .broken after cause => listed.map fun names => (names.take after).map .ok ++ [.error cause]

def discoverRead (reading : Reading) (tree : FileTree) (root : String) (layout : Layout) :
    Except Fault (List Case) :=
  discoverListed tree root layout (reading.listing (tree.list root))

def discover (tree : FileTree) (root : String) (layout : Layout) : Except Fault (List Case) :=
  discoverRead .whole tree root layout

theorem casesOf_ok (tree : FileTree) (root : String) (layout : Layout) (names : List String) :
    casesOf tree root layout (names.map .ok) =
      .ok (names.filterMap (Case.ofEntry? tree root layout)) := by
  induction names with
  | nil => rfl
  | cons name names ih =>
      rw [List.map_cons, casesOf, ih, List.filterMap_cons]
      cases Case.ofEntry? tree root layout name <;> rfl

theorem discover_eq (tree : FileTree) (root : String) (layout : Layout) :
    discover tree root layout =
      if !tree.isDirectory root then .error (.missingRoot root)
      else
        match tree.list root with
        | .error cause => .error (.discovery root cause)
        | .ok names => .ok (names.filterMap (Case.ofEntry? tree root layout)) := by
  rw [discover, discoverRead, discoverListed, Reading.listing]
  cases tree.list root with
  | error cause => rfl
  | ok names => rw [Except.map, Except.bind, casesOf_ok]

end Acceptance
