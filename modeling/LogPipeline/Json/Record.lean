import LogPipeline.Json.Basic

/-!
# Records in JSON

How fixed records, names of a choice, numbers and collections are read from JSON values. A record
is an object with the members of its fields in any order, or an array of all fields in their
order. Members of other names are passed over; a field that occurs twice is refused.
-/

namespace LogPipeline.Json

def fields? (names : List String) : Json → Option (List (Option Json))
  | .obj members =>
    let known := members.filter fun m => names.contains m.1
    if (known.map (·.1)).Nodup then some (names.map fun name => known.lookup name) else none
  | .arr items => if items.length = names.length then some (items.map some) else none
  | _ => none

def required {α : Type} (decode : Json → Option α) (member : Option Json) : Option α :=
  member.bind decode

def optional {α : Type} (decode : Json → Option α) : Option Json → Option (Option α)
  | none => some none
  | some .null => some none
  | some value => (decode value).map some

def bool? : Json → Option Bool
  | .bool b => some b
  | _ => none

def text? : Json → Option String
  | .str s => some s
  | _ => none

def nat? (bound : Nat) : Json → Option Nat
  | .int n => if 0 ≤ n ∧ n < bound then some n.toNat else none
  | _ => none

def uint32? (j : Json) : Option UInt32 :=
  (nat? UInt32.size j).map UInt32.ofNat

def uint64? (j : Json) : Option UInt64 :=
  (nat? UInt64.size j).map UInt64.ofNat

/-- One of several named values, written as its name or as an object with this name and null. -/
def choice? {α : Type} (values : List (String × α)) : Json → Option α
  | .str name => values.lookup name
  | .obj [(name, .null)] => values.lookup name
  | _ => none

def list? {α : Type} (decode : Json → Option α) : Json → Option (List α)
  | .arr items => items.mapM decode
  | _ => none

def dict? {α : Type} (decode : Json → Option α) : Json → Option (Dict α)
  | .obj members => (members.mapM fun m => (decode m.2).map (m.1, ·)).map Dict.ofList
  | _ => none

def names? (j : Json) : Option NameSet :=
  (list? text? j).map NameSet.ofList

def ofOption {α : Type} (encode : α → Json) : Option α → Json
  | none => .null
  | some a => encode a

def ofUInt32 (n : UInt32) : Json := .int n.toNat

def ofUInt64 (n : UInt64) : Json := .int n.toNat

def ofNames (s : NameSet) : Json :=
  .arr (s.names.map .str)

end LogPipeline.Json
