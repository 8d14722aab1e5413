import LogPipeline.Collections.Dict

/-!
# JSON values

The tree of a JSON document. The members of an object stand in the order in which they were
written, and a name may occur more than once; `Json.canonical` sorts them and keeps the last of
each name.
-/

namespace LogPipeline

inductive Json where
  | null
  | bool (b : Bool)
  | int (n : Int)
  | real (x : Float)
  | str (text : String)
  | arr (items : List Json)
  | obj (members : List (String × Json))
  /-- A well-formed literal without a value: a number beyond binary64, or a text with half a
  surrogate pair. -/
  | unreadable
  deriving Inhabited

namespace Json

mutual

def depth : Json → Nat
  | .arr items => itemsDepth items + 1
  | .obj members => membersDepth members + 1
  | _ => 0

def itemsDepth : List Json → Nat
  | [] => 0
  | item :: rest => max item.depth (itemsDepth rest)

def membersDepth : List (String × Json) → Nat
  | [] => 0
  | (_, value) :: rest => max value.depth (membersDepth rest)

end

mutual

def readable : Json → Bool
  | .arr items => itemsReadable items
  | .obj members => membersReadable members
  | .unreadable => false
  | _ => true

def itemsReadable : List Json → Bool
  | [] => true
  | item :: rest => item.readable && itemsReadable rest

def membersReadable : List (String × Json) → Bool
  | [] => true
  | (_, value) :: rest => value.readable && membersReadable rest

end

mutual

/-- The same value with the members of each object in the order of their names, the last one of
each name. -/
def canonical : Json → Json
  | .arr items => .arr (canonicalItems items)
  | .obj members => .obj (Dict.ofList (canonicalMembers members)).entries
  | other => other

def canonicalItems : List Json → List Json
  | [] => []
  | item :: rest => item.canonical :: canonicalItems rest

def canonicalMembers : List (String × Json) → List (String × Json)
  | [] => []
  | (name, value) :: rest => (name, value.canonical) :: canonicalMembers rest

end

def depthLimit : Nat := 127

def strict? (depthLimit : Nat) (j : Json) : Option Json :=
  if j.readable && j.depth ≤ depthLimit then some j.canonical else none

end Json

end LogPipeline
