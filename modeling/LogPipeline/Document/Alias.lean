import LogPipeline.Document.Summary
import LogPipeline.Net.Address

/-!
# Aliases

Generated identities are long. In reports each one has a short alias, `#` and a number, given in
the order in which the batches were received. Given identities stay as they are and come first.
-/

namespace LogPipeline

structure Aliases where
  ids : IdSource
  serials : List Nat

namespace Aliases

def ofSource (ids : IdSource) : Aliases := ⟨ids, []⟩

def hexNumber (digits : List Char) : Nat :=
  (digits.filterMap Net.hexValue?).foldl (fun n d => n * 16 + d) 0

def serial? (a : Aliases) (id : BatchId) : Option Nat :=
  if id.text.startsWith a.ids.stem then some (hexNumber (id.text.toList.drop a.ids.stem.length)) else none

def number? (a : Aliases) (serial : Nat) : Option Nat :=
  (a.serials.findIdx? (· = serial)).map (· + 1)

def resolve (a : Aliases) (text : String) : BatchId :=
  match text.toList with
  | '#' :: digits =>
    match Number.readBelow? UInt64.size (String.ofList digits) with
    | some (n + 1) => (a.serials[n]?).elim ⟨text⟩ a.ids.id
    | _ => ⟨text⟩
  | _ => ⟨text⟩

def extend (a : Aliases) (batches : List Batch) : Aliases :=
  let fresh := batches.filter fun b => (a.serial? b.id).any fun n => ! a.serials.contains n
  { a with
    serials := a.serials ++ (fresh.mergeSort Batch.precedes).filterMap fun b => a.serial? b.id }

def aliased (a : Aliases) (behind : String) : String :=
  let cs := behind.toList
  let digits := (cs.takeWhile fun c => (Net.hexValue? c).isSome).take 12
  match a.number? (hexNumber digits) with
  | some k => "#" ++ toString k ++ String.ofList (cs.drop digits.length)
  | none => a.ids.stem ++ behind

def inText (a : Aliases) (text : String) : String :=
  match text.splitOn a.ids.stem with
  | [] => text
  | first :: rest => rest.foldl (fun out behind => out ++ a.aliased behind) first

mutual

def inJson (a : Aliases) : Json → Json
  | .str s => .str (a.inText s)
  | .arr items => .arr (a.inItems items)
  | .obj members => .obj (a.inMembers members)
  | other => other

def inItems (a : Aliases) : List Json → List Json
  | [] => []
  | item :: rest => a.inJson item :: a.inItems rest

def inMembers (a : Aliases) : List (String × Json) → List (String × Json)
  | [] => []
  | (name, value) :: rest => (a.inText name, a.inJson value) :: a.inMembers rest

end

def precedes (a : Aliases) (x y : BatchId) : Bool :=
  let rank (id : BatchId) : Option Nat :=
    (a.serial? id).map fun n => (a.number? n).getD (a.serials.length + n + 1)
  match rank x, rank y with
  | none, none => x.text ≤ y.text
  | none, some _ => true
  | some _, none => false
  | some n, some m => n ≤ m

def sorted (a : Aliases) (ids : List BatchId) : List BatchId :=
  ids.mergeSort a.precedes

def sortedBatches (a : Aliases) (batches : List Batch) : List Batch :=
  batches.mergeSort fun x y => a.precedes x.id y.id

end Aliases

end LogPipeline
