/-!
# TOML values

What a TOML document holds once it is read. Numbers with a fraction and points in time are kept
as they are written.
-/

namespace LogPipeline.Toml

inductive Value where
  | str (text : String)
  | int (n : Int)
  | bool (b : Bool)
  | real (literal : String)
  | moment (literal : String)
  | arr (items : List Value)
  | table (entries : List (String × Value))
  deriving Inhabited

end LogPipeline.Toml
