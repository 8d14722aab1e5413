import LogPipeline.Json.Basic

/-!
# Flat fields

The members of nested objects as one list of fields. A field is named by the path that leads to
its value, with points between the names. Nulls give no field, arrays are values, and objects that
lie deeper than the limit are values too.
-/

namespace LogPipeline

def fieldName (path key : String) : String :=
  if path.isEmpty then key else path ++ "." ++ key

mutual

def flattenMembers (depth : Nat) (path : String) : List (String × Json) → List (String × Json)
  | [] => []
  | (key, value) :: rest =>
    flattenValue depth (fieldName path key) value ++ flattenMembers depth path rest

def flattenValue (depth : Nat) (name : String) : Json → List (String × Json)
  | .null => []
  | .obj members =>
    match depth with
    | 0 => [(name, .obj members)]
    | depth + 1 => flattenMembers depth name members
  | value => [(name, value)]

end

end LogPipeline
