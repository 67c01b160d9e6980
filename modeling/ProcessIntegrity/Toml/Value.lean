import ProcessIntegrity.Binary64
/-!
# TOML values

What a TOML document holds. A table keeps its entries in the order in which their keys first
appeared; keys are distinct in every table that reading builds.
-/

namespace ProcessIntegrity.Toml

/-- A TOML value. Integers have 64 bits; of a date or time only the written form is kept. -/
inductive Value where
  | string (text : String)
  | integer (n : Int)
  | float (x : Binary64)
  | boolean (b : Bool)
  | dateTime (written : String)
  | array (items : List Value)
  | table (entries : List (String × Value))
  deriving Repr

/-- A way to read the start of a text: what was read, and what is left. -/
abbrev Reader (α : Type) := List Char → Option (α × List Char)

def after? (c : Char) : List Char → Option (List Char)
  | d :: rest => if c = d then some rest else none
  | [] => none

end ProcessIntegrity.Toml
