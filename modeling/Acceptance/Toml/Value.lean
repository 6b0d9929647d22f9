import Acceptance.Decimal.Written
import Acceptance.Text.Quoted

namespace Acceptance.Toml

open Decimal (Binary64)

inductive Quantity where
  | finite (negative : Bool) (magnitude : Binary64)
  | infinite (negative : Bool)
  | undefined
  | excessive
  deriving DecidableEq, Repr

inductive Value where
  | text (content : String)
  | integer (value : Int)
  | quantity (value : Quantity)
  | boolean (value : Bool)
  -- A date, a time or both. What it says is of no use here.
  | moment
  | array (items : List Value)
  | table (entries : List (String × Value))

namespace Quantity

-- All digits written out, the fewest that read back, with at least one after the point. A tie
-- goes up.
def written : Quantity → String
  | .finite negative magnitude =>
      (if negative then "-" else "") ++ String.ofList (magnitude.shortest .up).positional
  | .infinite negative => if negative then "-inf" else "inf"
  | .undefined => "NaN"
  | .excessive => "inf"

end Quantity

namespace Value

-- How a message speaks of a value that is not wanted.
def describe : Value → String
  | .text content => "string " ++ Text.quoted content
  | .integer value => s!"integer `{value}`"
  | .quantity value => "floating point `" ++ value.written ++ "`"
  | .boolean value => s!"boolean `{value}`"
  | .array _ => "sequence"
  | .moment | .table _ => "map"

mutual

-- Whether a number in the value is outside the range that the format grants: integers of 64
-- bits with sign, and binary64 numbers.
def isExcessive : Value → Bool
  | .integer value => value < Int64.minValue.toInt || Int64.maxValue.toInt < value
  | .quantity .excessive => true
  | .array items => anyExcessive items
  | .table entries => anyEntryExcessive entries
  | _ => false

def anyExcessive : List Value → Bool
  | [] => false
  | item :: items => isExcessive item || anyExcessive items

def anyEntryExcessive : List (String × Value) → Bool
  | [] => false
  | (_, value) :: entries => isExcessive value || anyEntryExcessive entries

end

end Value
end Acceptance.Toml
