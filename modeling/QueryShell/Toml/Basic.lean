import QueryShell.Entries

/-!
# TOML values

What a TOML document holds. Numbers with a fraction and dates are kept as they
were written.
-/

namespace QueryShell.Toml

inductive Value where
  | string (s : String)
  | integer (n : Int)
  | float (text : String)
  | boolean (b : Bool)
  | dateTime (text : String)
  | array (items : List Value)
  | table (entries : List (String × Value))
deriving Repr, Inhabited

end QueryShell.Toml
