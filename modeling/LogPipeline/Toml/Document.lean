import LogPipeline.Toml.Value

/-!
# Building TOML tables

A document is a list of statements. They build up a tree of tables in which each table remembers
how it came about, because that decides what may still be added to it.
-/

namespace LogPipeline.Toml

inductive Origin where
  | header
  | implied
  | dotted
  deriving DecidableEq

inductive Node where
  | value (v : Value)
  | table (origin : Origin) (entries : List (String × Node))
  /-- The tables of a repeated header, the latest first. -/
  | tables (latest : Node) (earlier : List Node)

inductive Statement where
  | pair (path : List String) (key : String) (v : Value)
  | header (path : List String) (key : String)
  | element (path : List String) (key : String)

mutual

def Node.toValue : Node → Value
  | .value v => v
  | .table _ entries => .table (entriesValue entries)
  | .tables latest earlier => .arr (earlierValues earlier [latest.toValue])

def entriesValue : List (String × Node) → List (String × Value)
  | [] => []
  | (key, node) :: rest => (key, node.toValue) :: entriesValue rest

def earlierValues : List Node → List Value → List Value
  | [], values => values
  | node :: rest, values => earlierValues rest (node.toValue :: values)

end

abbrev Entries := List (String × Node)

def setEntry (key : String) (node : Node) : Entries → Entries
  | [] => [(key, node)]
  | (k, n) :: rest => if k = key then (key, node) :: rest else (k, n) :: setEntry key node rest

/-- Applies a change to the table at the end of a path. Tables that are missing come about on the
way. A dotted key does not reach into a table with a header of its own. -/
def updateAt (dotted : Bool) (change : Origin → Entries → Option Node) :
    List String → Origin → Entries → Option Node
  | [], origin, entries => change origin entries
  | key :: path, origin, entries => do
    let child ← match entries.lookup key with
      | none => updateAt dotted change path (if dotted then .dotted else .implied) []
      | some (.value _) => none
      | some (.table childOrigin childEntries) =>
        if dotted ∧ childOrigin = .header then none
        else updateAt dotted change path childOrigin childEntries
      | some (.tables (.table childOrigin childEntries) earlier) =>
        (updateAt dotted change path childOrigin childEntries).map (.tables · earlier)
      | some (.tables _ _) => none
    return .table origin (setEntry key child entries)

def addPair (path : List String) (key : String) (v : Value) (origin : Origin)
    (entries : Entries) : Option Node :=
  updateAt true
    (fun origin entries =>
      if (origin = .dotted ↔ path = []) ∨ (entries.lookup key).isSome then none
      else some (.table origin (entries ++ [(key, .value v)])))
    path origin entries

def openTable (key : String) (origin : Origin) (entries : Entries) : Option Node :=
  match entries.lookup key with
  | none => some (.table origin (entries ++ [(key, .table .header [])]))
  | some (.table .implied inner) => some (.table origin (setEntry key (.table .header inner) entries))
  | some _ => none

def openElement (key : String) (origin : Origin) (entries : Entries) : Option Node :=
  match entries.lookup key with
  | none => some (.table origin (entries ++ [(key, .tables (.table .header []) [])]))
  | some (.tables latest earlier) =>
    some (.table origin (setEntry key (.tables (.table .header []) (latest :: earlier)) entries))
  | some _ => none

def applyStatement : List String × Entries → Statement → Option (List String × Entries)
  | (current, root), .pair path key v =>
    match updateAt false (addPair path key v) current .header root with
    | some (.table _ root) => some (current, root)
    | _ => none
  | (_, root), .header path key =>
    match updateAt false (openTable key) path .header root with
    | some (.table _ root) => some (path ++ [key], root)
    | _ => none
  | (_, root), .element path key =>
    match updateAt false (openElement key) path .header root with
    | some (.table _ root) => some (path ++ [key], root)
    | _ => none

def build? (statements : List Statement) : Option (List (String × Value)) :=
  (statements.foldlM applyStatement ([], [])).map fun (_, root) => entriesValue root

end LogPipeline.Toml
