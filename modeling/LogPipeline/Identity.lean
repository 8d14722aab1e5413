import LogPipeline.Text.Blank

namespace LogPipeline

structure AppId where
  text : String
  deriving DecidableEq, Repr, Inhabited

def AppId.isBlank (id : AppId) : Bool :=
  Text.isBlankText id.text

structure EndpointId where
  text : String
  deriving DecidableEq, Repr, Inhabited

def EndpointId.isBlank (id : EndpointId) : Bool :=
  Text.isBlankText id.text

structure BatchId where
  text : String
  deriving DecidableEq, Repr, Inhabited

def BatchId.hexText (width n : Nat) : String :=
  let digits := Nat.toDigits 16 n
  String.ofList (List.replicate (width - digits.length) '0' ++ digits)

/-- A source of identities for batches. Each has the stem of the source and a serial number. -/
structure IdSource where
  stem : String
  next : Nat
  deriving Repr, Inhabited

namespace IdSource

/-- The source whose stem shows a seed. An identity has the form of a random UUID. -/
def ofSeed (seed : Nat) : IdSource :=
  let digits := (BatchId.hexText 18 seed).toList
  let part (start count : Nat) : String := String.ofList ((digits.drop start).take count)
  ⟨part 0 8 ++ "-" ++ part 8 4 ++ "-4" ++ part 12 3 ++ "-8" ++ part 15 3 ++ "-", 1⟩

def id (s : IdSource) (serial : Nat) : BatchId :=
  ⟨s.stem ++ BatchId.hexText 12 serial⟩

def fresh (s : IdSource) : BatchId :=
  s.id s.next

def advance (s : IdSource) : IdSource :=
  { s with next := s.next + 1 }

end IdSource

structure Key where
  app : AppId
  endpoint : EndpointId
  deriving DecidableEq, Repr, Inhabited

namespace Key

def text (k : Key) : String :=
  k.app.text ++ "/" ++ k.endpoint.text

def precedes (a b : Key) : Bool :=
  a.app.text < b.app.text || a.app.text = b.app.text && a.endpoint.text ≤ b.endpoint.text

end Key

end LogPipeline
