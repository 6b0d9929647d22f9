
namespace Acceptance.Text

abbrev Runs := List Nat

def Runs.holds (inside : Bool) : Runs → Nat → Bool
  | [], _ => false
  | run :: runs, point => if point < run then inside else holds (!inside) runs (point - run)

def Runs.contains (runs : Runs) (c : Char) : Bool := runs.holds false c.toNat

end Acceptance.Text
