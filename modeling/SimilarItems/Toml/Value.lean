import SimilarItems.Binary64.Basic

/-!
# TOML values

The values of a TOML document. Dates and times are kept as they are written, since no setting is
one.
-/

namespace SimilarItems.Toml

/-- A TOML value. -/
inductive Value where
  | bool (b : Bool)
  | integer (n : Int)
  | real (x : Binary64)
  | string (s : String)
  /-- A date, a time, or both. -/
  | moment (text : String)
  | array (elements : List Value)
  | table (entries : List (String × Value))
deriving Inhabited

end SimilarItems.Toml
