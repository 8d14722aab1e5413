import LogPipeline.Pattern.Basic

/-!
# Matching patterns

The matching rule: the leftmost match, and of those that begin there the first one when
alternatives are tried in their order and repetitions take as much as they can. A pattern is
followed through the text character by character along all its ways at once; the ways stay in the
order in which they would be tried, and of two that have the same ahead of them the later one is
dropped.
-/

namespace LogPipeline

structure Place where
  position : Nat
  before : Option Char
  rest : List Char

namespace Place

def start (text : List Char) : Place := ⟨0, none, text⟩

def next (p : Place) : Place :=
  match p.rest with
  | [] => p
  | c :: rest => ⟨p.position + 1, some c, rest⟩

def holds (p : Place) (a : Assertion) : Bool :=
  a.holds p.before p.rest.head?

end Place

structure Span where
  first : Place
  last : Place

namespace Span

def text (s : Span) : String :=
  String.ofList (s.first.rest.take (s.last.position - s.first.position))

def isEmpty (s : Span) : Bool :=
  s.first.position = s.last.position

end Span

/-- The groups that were entered and those that were captured, the latest first. -/
structure Captures where
  entered : List (Nat × Place)
  captured : List (Nat × Span)

namespace Captures

def none : Captures := ⟨[], []⟩

def enter (m : Captures) (number : Nat) (place : Place) : Captures :=
  { m with entered := (number, place) :: m.entered }

def leave (m : Captures) (number : Nat) (place : Place) : Captures :=
  match m.entered.lookup number with
  | some first => { m with captured := (number, ⟨first, place⟩) :: m.captured }
  | Option.none => m

def group? (m : Captures) (number : Nat) : Option Span :=
  m.captured.lookup number

end Captures

namespace Pattern

inductive Step where
  | follow (p : Pattern)
  | leave (number : Nat)
  | again (p : Pattern) (greedy : Bool)
  deriving DecidableEq, Repr

inductive Way where
  | passes (m : Captures)
  | takes (s : CharClass) (ahead : List Step) (m : Captures)

def Way.isTaking : Way → Bool
  | .passes _ => false
  | .takes .. => true

/-- Goes on where a way passes. A later way that passes comes too late: it would only lead again
to where the first one leads. -/
def andThen (ways : List Way) (next : Captures → List Way) : List Way :=
  match ways with
  | [] => []
  | .passes m :: rest => next m ++ rest.filter Way.isTaking
  | way :: rest => way :: andThen rest next

def prefer (greedy : Bool) (more : List Way) (m : Captures) : List Way :=
  if greedy then more ++ [.passes m] else .passes m :: more

/-- The ways through up to `extra` repetitions of a pattern, given the ways through one. Where the
number is not limited, a repetition that takes nothing is the last. -/
def optionalWays (p : Pattern) (once : List Step → Captures → List Way) (greedy : Bool) :
    Option Nat → List Step → Captures → List Way
  | none, ahead, m => prefer greedy (once (.again p greedy :: ahead) m) m
  | some 0, _, m => [.passes m]
  | some (extra + 1), ahead, m =>
    let more := once (.follow (.loop ⟨0, some extra, greedy⟩ p) :: ahead) m
    prefer greedy (andThen more (optionalWays p once greedy (some extra) ahead)) m

def loopWays (p : Pattern) (once : List Step → Captures → List Way) (extra : Option Nat)
    (greedy : Bool) : Nat → List Step → Captures → List Way
  | 0, ahead, m => optionalWays p once greedy extra ahead m
  | least + 1, ahead, m =>
    if least = 0 ∧ extra = none then once (.again p greedy :: ahead) m
    else
      andThen (once (.follow (.loop ⟨least, extra, greedy⟩ p) :: ahead) m)
        (loopWays p once extra greedy least ahead)

/-- The ways through a pattern from a place, in the order in which they are tried. Each way that
takes something has the given steps ahead, after those that are left of the pattern. -/
def ways (place : Place) : Pattern → List Step → Captures → List Way
  | .empty, _, m => [.passes m]
  | .one s, ahead, m => [.takes s ahead m]
  | .check a, _, m => if place.holds a then [.passes m] else []
  | .seq p q, ahead, m => andThen (ways place p (.follow q :: ahead) m) (ways place q ahead)
  | .alt p q, ahead, m => ways place p ahead m ++ ways place q ahead m
  | .group number p, ahead, m =>
    andThen (ways place p (.leave number :: ahead) (m.enter number place)) fun m =>
      [.passes (m.leave number place)]
  | .loop count p, ahead, m =>
    loopWays p (ways place p) count.extra count.greedy count.least ahead m

/-- The ways through the steps that are ahead. One that passes has come to the end of them. To
repeat something again without taking anything is no way. -/
def waysAhead (place : Place) : List Step → Captures → List Way
  | [], m => [.passes m]
  | .leave number :: ahead, m => waysAhead place ahead (m.leave number place)
  | .follow p :: ahead, m => andThen (ways place p ahead m) (waysAhead place ahead)
  | .again p greedy :: ahead, m =>
    let more := (ways place p (.again p greedy :: ahead) m).filter Way.isTaking
    andThen (prefer greedy more m) (waysAhead place ahead)

structure Thread where
  ahead : List Step
  captures : Captures

/-- The threads behind the next character, up to the first way that has come to its end, and the
captures of that way. -/
def move (c : Option Char) : List Way → List Thread × Option Captures
  | [] => ([], none)
  | .passes m :: _ => ([], some m)
  | .takes s ahead m :: rest =>
    let (moved, found) := move c rest
    if c.any s.has then (⟨ahead, m⟩ :: moved, found) else (moved, found)

def moveAll (place : Place) : List Thread → List Thread × Option Captures
  | [] => ([], none)
  | t :: rest =>
    match move place.rest.head? (waysAhead place t.ahead t.captures) with
    | (moved, some m) => (moved, some m)
    | (moved, none) =>
      let (others, found) := moveAll place rest
      (moved ++ others, found)

/-- Of threads that have the same ahead, keeps the first. Threads with something ahead that was
seen before are not kept. -/
def distinct (seen : List (List Step)) : List Thread → List Thread
  | [] => []
  | t :: rest =>
    if seen.contains t.ahead then distinct seen rest else t :: distinct (t.ahead :: seen) rest

def advance (p : Pattern) (place : Place) (threads : List Thread) (found : Option Captures) :
    List Thread × Option Captures :=
  let begun := if found.isSome then threads else threads ++ [⟨[.follow p], .none⟩]
  let (moved, ended) := moveAll place begun
  (distinct [] moved, ended.or found)

def follow (p : Pattern) (position : Nat) (before : Option Char) (threads : List Thread)
    (found : Option Captures) : List Char → Option Captures
  | [] => (advance p ⟨position, before, []⟩ threads found).2
  | c :: rest =>
    let (moved, found) := advance p ⟨position, before, c :: rest⟩ threads found
    if moved.isEmpty && found.isSome then found
    else follow p (position + 1) (some c) moved found rest

def firstMatch (p : Pattern) (place : Place) : Option Captures :=
  follow (.group 0 p) place.position place.before [] none place.rest

/-- All matches from a place on, where the match before ended at `previous`. An empty match does
not follow directly on another match. -/
def matchesFrom (p : Pattern) : Nat → Option Nat → Place → List Captures
  | 0, _, _ => []
  | fuel + 1, previous, place =>
    match p.firstMatch place with
    | none => []
    | some m =>
      match m.group? 0 with
      | none => []
      | some span =>
        if span.isEmpty ∧ previous = some span.last.position then
          if place.rest.isEmpty then [] else matchesFrom p fuel none place.next
        else m :: matchesFrom p fuel (some span.last.position) span.last

def allMatches (p : Pattern) (text : String) : List Captures :=
  let cs := text.toList
  p.matchesFrom (2 * cs.length + 2) none (.start cs)

end Pattern

end LogPipeline
