import LogPipeline.Pattern.Basic
import LogPipeline.Pattern.PropertyName

namespace LogPipeline.Pattern

structure Mode where
  caseless : Bool := false
  multiLine : Bool := false
  dotAll : Bool := false
  lazy : Bool := false
  unicode : Bool := true
  carriageReturns : Bool := false
  verbose : Bool := false

def skipComments : Bool → List Char → List Char
  | _, [] => []
  | true, c :: rest => skipComments (c ≠ '\n') rest
  | false, c :: rest =>
    if c = '#' then skipComments true rest
    else if Text.isBlank c then skipComments false rest
    else c :: rest

def Mode.skip (m : Mode) (cs : List Char) : List Char :=
  if m.verbose then skipComments false cs else cs

inductive Escape where
  | char (c : Char)
  | set (s : CharClass)
  | check (a : Assertion)

def hexDigit? (c : Char) : Option Nat :=
  if c.isDigit then some (c.toNat - '0'.toNat)
  else if 'a' ≤ c ∧ c ≤ 'f' then some (c.toNat - 'a'.toNat + 10)
  else if 'A' ≤ c ∧ c ≤ 'F' then some (c.toNat - 'A'.toNat + 10)
  else none

def hexChar? (digits : List Char) : Option Char := do
  guard (! digits.isEmpty)
  let n := (← digits.mapM hexDigit?).foldl (fun n d => n * 16 + d) 0
  guard (n < 0xD800 ∨ 0xE000 ≤ n ∧ n < 0x110000)
  return Char.ofNat n

def braced? : List Char → Option (List Char × List Char)
  | '\x7b' :: rest =>
    let inner := rest.takeWhile (· ≠ '\x7d')
    match rest.drop inner.length with
    | _ :: rest => some (inner, rest)
    | [] => none
  | _ => none

def numbered? (count : Nat) (cs : List Char) : Option (Escape × List Char) :=
  match cs with
  | '\x7b' :: _ => do
    let (digits, rest) ← braced? cs
    return (.char (← hexChar? digits), rest)
  | cs => do
    guard (count ≤ cs.length)
    return (.char (← hexChar? (cs.take count)), cs.drop count)

def property? (m : Mode) (negated : Bool) (cs : List Char) : Option (Escape × List Char) := do
  let (name, rest) ← match cs with
    | '\x7b' :: _ => braced? cs
    | c :: rest => some ([c], rest)
    | [] => none
  guard m.unicode
  let (name, negated) :=
    match name.dropWhile (· ≠ '!') with
    | '!' :: '=' :: value => (name.takeWhile (· ≠ '!') ++ '=' :: value, ! negated)
    | _ => (name, negated)
  let s ← CharClass.ofPropertyName? name
  let s := if m.caseless then .folded s else s
  return (.set (if negated then .except s else s), rest)

def letterClass (m : Mode) (s ascii : CharClass) (negated : Bool) : Option Escape :=
  if m.unicode then some (.set (if negated then .except s else s))
  else if negated then none
  else some (.set ascii)

def Mode.word (m : Mode) : CharClass :=
  if m.unicode then .word else .asciiWord

def wordEdge? (m : Mode) (cs : List Char) : Option (Escape × List Char) :=
  match cs with
  | '\x7b' :: c :: _ =>
    if c.isAlpha || c = '-' then do
      let (name, rest) ← braced? cs
      let a ← [("start", Assertion.runStart m.word), ("end", .runEnd m.word),
        ("start-half", .notAfter m.word), ("end-half", .notBefore m.word)].lookup
          (String.ofList name)
      return (.check a, rest)
    else some (.check (.edge m.word), cs)
  | cs => some (.check (.edge m.word), cs)

def escape? (m : Mode) : List Char → Option (Escape × List Char)
  | [] => none
  | c :: rest =>
    match c with
    | 'w' => (letterClass m .word .asciiWord false).map (·, rest)
    | 'W' => (letterClass m .word .asciiWord true).map (·, rest)
    | 'd' => (letterClass m .digit (.range '0' '9') false).map (·, rest)
    | 'D' => (letterClass m .digit (.range '0' '9') true).map (·, rest)
    | 's' => (letterClass m .blank .asciiBlank false).map (·, rest)
    | 'S' => (letterClass m .blank .asciiBlank true).map (·, rest)
    | 'x' => numbered? 2 rest
    | 'u' => numbered? 4 rest
    | 'U' => numbered? 8 rest
    | 'p' => property? m false rest
    | 'P' => property? m true rest
    | 'a' => some (.char '\x07', rest)
    | 'f' => some (.char '\x0c', rest)
    | 't' => some (.char '\t', rest)
    | 'n' => some (.char '\n', rest)
    | 'r' => some (.char '\r', rest)
    | 'v' => some (.char '\x0b', rest)
    | 'A' => some (.check .textStart, rest)
    | 'z' => some (.check .textEnd, rest)
    | 'b' => wordEdge? m rest
    | 'B' => some (.check (.noEdge m.word), rest)
    | '<' => some (.check (.runStart m.word), rest)
    | '>' => some (.check (.runEnd m.word), rest)
    | c => if c.toNat < 128 ∧ ! c.isAlphanum then some (.char c, rest) else none

def classItem? (m : Mode) : List Char → Option (Escape × List Char)
  | '\\' :: rest => do
    match ← escape? m rest with
    | (.check _, _) => none
    | item => some item
  | c :: rest => some (.char c, rest)
  | [] => none

def classRange? (m : Mode) (cs : List Char) : Option (CharClass × List Char) := do
  let (item, rest) ← classItem? m cs
  let alone : CharClass := match item with
    | .char c => .single c
    | .set s => s
    | .check _ => .none
  match m.skip rest with
  | [] => none
  | '-' :: more =>
    match m.skip more with
    | [] => none
    | ']' :: _ => return (alone, rest)
    | '-' :: _ => return (alone, rest)
    | more => do
      match item, ← classItem? m more with
      | .char first, (.char last, rest) =>
        guard (first ≤ last)
        return (.range first last, rest)
      | _, _ => none
  | rest => return (alone, rest)

def asciiClass? (m : Mode) : List Char → Option (CharClass × List Char)
  | ':' :: rest =>
    let (negated, rest) := match rest with
      | '^' :: rest => (true, rest)
      | rest => (false, rest)
    let name := rest.takeWhile (· ≠ ':')
    match CharClass.asciiNamed.lookup (String.ofList name), rest.drop name.length with
    | some s, ':' :: ']' :: rest =>
      let s := if m.caseless then .folded s else s
      some (if negated then .except s else s, rest)
    | _, _ => none
  | _ => none

inductive SetOperation where
  | both
  | difference
  | oneOfTwo

def SetOperation.apply (o : SetOperation) (s t : CharClass) : CharClass :=
  match o with
  | .both => .both s t
  | .difference => .difference s t
  | .oneOfTwo => .oneOfTwo s t

structure OpenClass where
  negated : Bool
  left : Option (CharClass × SetOperation)
  items : List CharClass

namespace OpenClass

def set (m : Mode) (o : OpenClass) : CharClass :=
  let right := CharClass.anyOf o.items.reverse
  let fold (s : CharClass) : CharClass := if m.caseless then .folded s else s
  match o.left with
  | none => right
  | some (left, op) => op.apply (fold left) (fold right)

def add (o : OpenClass) (s : CharClass) : OpenClass :=
  { o with items := s :: o.items }

def operate (m : Mode) (o : OpenClass) (op : SetOperation) : OpenClass :=
  { o with left := some (o.set m, op), items := [] }

def closed (m : Mode) (o : OpenClass) : Option CharClass :=
  let s := if m.caseless then .folded (o.set m) else o.set m
  if o.negated then (if m.unicode then some (.except s) else none) else some s

end OpenClass

def openClass (m : Mode) (cs : List Char) : OpenClass × List Char :=
  let (negated, cs) := match m.skip cs with
    | '^' :: rest => (true, m.skip rest)
    | cs => (false, cs)
  let hyphens := cs.takeWhile (· = '-')
  let items := hyphens.map CharClass.single
  match items, m.skip (cs.drop hyphens.length) with
  | [], ']' :: rest => (⟨negated, none, [.single ']']⟩, rest)
  | items, rest => (⟨negated, none, items⟩, rest)

def classRest? (m : Mode) (o : OpenClass) (outer : List OpenClass) :
    Nat → List Char → Option (CharClass × List Char)
  | 0, _ => none
  | fuel + 1, cs =>
    match m.skip cs with
    | [] => none
    | ']' :: rest => do
      let s ← o.closed m
      match outer with
      | [] => return (s, rest)
      | next :: outer => classRest? m (next.add s) outer fuel rest
    | '[' :: rest =>
      match asciiClass? m rest with
      | some (s, rest) => classRest? m (o.add s) outer fuel rest
      | none =>
        let (inner, rest) := openClass m rest
        classRest? m inner (o :: outer) fuel rest
    | '&' :: '&' :: rest => classRest? m (o.operate m .both) outer fuel rest
    | '-' :: '-' :: rest => classRest? m (o.operate m .difference) outer fuel rest
    | '~' :: '~' :: rest => classRest? m (o.operate m .oneOfTwo) outer fuel rest
    | cs => do
      let (s, rest) ← classRange? m cs
      classRest? m (o.add s) outer fuel rest

def class? (m : Mode) (cs : List Char) : Option (CharClass × List Char) :=
  let (o, rest) := openClass m cs
  classRest? m o [] (rest.length + 1) rest

end LogPipeline.Pattern
