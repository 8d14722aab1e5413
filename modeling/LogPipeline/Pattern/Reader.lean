import LogPipeline.Pattern.ClassReader

namespace LogPipeline.Pattern

structure Progress where
  mode : Mode
  groups : Nat
  names : List (List Char)
  depth : Nat

def depthLimit : Nat := 250

/-! ## Repetitions -/

def takesNothing : Pattern → Bool
  | .empty => true
  | .one _ => false
  | .check _ => true
  | .seq p q => takesNothing p && takesNothing q
  | .alt p q => takesNothing p && takesNothing q
  | .group _ p => takesNothing p
  | .loop count p => takesNothing p || count.least = 0 && count.extra = some 0

/-- A repeated pattern. To repeat what takes nothing more than once makes no difference. -/
def repeated (p : Pattern) (least : Nat) (most : Option Nat) (greedy : Bool) : Pattern :=
  let (least, most) :=
    if takesNothing p then (min least 1, some (min (most.getD 1) 1)) else (least, most)
  if least = 1 ∧ most = some 1 then p
  else if most = some 0 then .empty
  else .loop ⟨least, most.map (· - least), greedy⟩ p

def number? (cs : List Char) : Option (Nat × List Char) :=
  let cs := cs.dropWhile Text.isBlank
  let digits := cs.takeWhile Char.isDigit
  let n := digits.foldl (fun n c => n * 10 + (c.toNat - '0'.toNat)) 0
  if digits.isEmpty ∨ UInt32.size ≤ n then none
  else some (n, (cs.drop digits.length).dropWhile Text.isBlank)

def braces? (m : Mode) (cs : List Char) : Option (Nat × Option Nat × List Char) := do
  let (least, rest) ← number? cs
  match m.skip rest with
  | '\x7d' :: rest => return (least, some least, rest)
  | ',' :: rest =>
    match m.skip rest with
    | '\x7d' :: rest => return (least, none, rest)
    | rest => do
      let (most, rest) ← number? rest
      guard (least ≤ most)
      match m.skip rest with
      | '\x7d' :: rest => return (least, some most, rest)
      | _ => none
  | _ => none

def quantified? (m : Mode) (p : Pattern) : Nat → List Char → Option (Pattern × List Char)
  | 0, _ => none
  | fuel + 1, cs => do
    let found ← match m.skip cs with
      | '*' :: rest => some (some (0, none, rest))
      | '+' :: rest => some (some (1, none, rest))
      | '?' :: rest => some (some (0, some 1, rest))
      | '\x7b' :: rest => (braces? m rest).map some
      | _ => some none
    match found with
    | none => return (p, cs)
    | some (least, most, '?' :: rest) => quantified? m (repeated p least most m.lazy) fuel rest
    | some (least, most, rest) => quantified? m (repeated p least most (! m.lazy)) fuel rest

/-! ## Switches -/

def Mode.turn? (m : Mode) (switch : Char) (on : Bool) : Option Mode :=
  match switch with
  | 'i' => some { m with caseless := on }
  | 'm' => some { m with multiLine := on }
  | 's' => some { m with dotAll := on }
  | 'U' => some { m with lazy := on }
  | 'u' => some { m with unicode := on }
  | 'R' => some { m with carriageReturns := on }
  | 'x' => some { m with verbose := on }
  | _ => none

/-- Reads switches up to a colon or a parenthesis. After a hyphen they are turned off; neither the
hyphen nor a switch may come twice, and a hyphen may not be the last. -/
def switches? (m : Mode) (on : Bool) (seen : List Char) : List Char → Option (Mode × List Char)
  | [] => none
  | c :: rest =>
    if c = ':' ∨ c = ')' then if seen.head? = some '-' then none else some (m, c :: rest)
    else if seen.contains c then none
    else if c = '-' then switches? m false (c :: seen) rest
    else (m.turn? c on).bind fun m => switches? m on (c :: seen) rest

/-! ## Groups -/

def groupName? (cs : List Char) : Option (List Char × List Char) := do
  let name := cs.takeWhile (· ≠ '>')
  let isFirst (c : Char) : Bool := c = '_' || Text.Property.has .letter c
  let isNext (c : Char) : Bool :=
    isFirst c || ['.', '[', ']'].contains c || Text.Property.has .number c
  guard (name.head?.any isFirst ∧ name.all isNext)
  match cs.drop name.length with
  | [] => none
  | _ :: rest => return (name, rest)

def literal (m : Mode) (c : Char) : Pattern :=
  .one (if m.caseless then .folded (.single c) else .single c)

def dot? (m : Mode) : Option Pattern :=
  if ! m.unicode then none
  else if m.dotAll then some (.one .any)
  else if m.carriageReturns then some (.one (.except (.either (.single '\r') (.single '\n'))))
  else some (.one (.except (.single '\n')))

def Mode.start (m : Mode) : Assertion :=
  if ! m.multiLine then .textStart else if m.carriageReturns then .anyLineStart else .lineStart

def Mode.finish (m : Mode) : Assertion :=
  if ! m.multiLine then .textEnd else if m.carriageReturns then .anyLineEnd else .lineEnd

def followedBy (p q : Pattern) : Pattern :=
  match p with
  | .empty => q
  | p => .seq p q

def atom? (m : Mode) : List Char → Option (Pattern × List Char)
  | [] => none
  | '.' :: rest => (dot? m).map (·, rest)
  | '^' :: rest => some (.check m.start, rest)
  | '$' :: rest => some (.check m.finish, rest)
  | '[' :: rest => (class? m rest).map fun (s, rest) => (.one s, rest)
  | '\\' :: rest => do
    match ← escape? m rest with
    | (.char c, rest) => return (literal m c, rest)
    | (.set s, rest) => return (.one s, rest)
    | (.check a, rest) => return (.check a, rest)
  | c :: rest => if ['*', '+', '?', '\x7b'].contains c then none else some (literal m c, rest)

inductive Opening where
  | switched (m : Mode)
  | plain (m : Mode)
  | captured (name : Option (List Char))

def opening? (m : Mode) : List Char → Option (Opening × List Char)
  | '?' :: 'P' :: '<' :: rest => (groupName? rest).map fun (name, rest) => (.captured name, rest)
  | '?' :: '<' :: rest => (groupName? rest).map fun (name, rest) => (.captured name, rest)
  | '?' :: ')' :: _ => none
  | '?' :: rest => do
    let (changed, rest) ← switches? m true [] rest
    match rest with
    | ')' :: rest => return (.switched changed, rest)
    | rest => return (.plain changed, rest.drop 1)
  | rest => some (.captured none, rest)

mutual

def alternatives? (fuel : Nat) (s : Progress) (cs : List Char) :
    Option (Pattern × Progress × List Char) :=
  match fuel with
  | 0 => none
  | fuel + 1 => do
    let (first, s, rest) ← sequence? fuel s .empty cs
    match rest with
    | '|' :: rest =>
      let (second, s, rest) ← alternatives? fuel s rest
      return (.alt first second, s, rest)
    | rest => return (first, s, rest)

def sequence? (fuel : Nat) (s : Progress) (before : Pattern) (cs : List Char) :
    Option (Pattern × Progress × List Char) :=
  match fuel with
  | 0 => none
  | fuel + 1 =>
    match s.mode.skip cs with
    | [] => some (before, s, [])
    | '|' :: rest => some (before, s, '|' :: rest)
    | ')' :: rest => some (before, s, ')' :: rest)
    | '(' :: rest => do
      match ← opening? s.mode (s.mode.skip rest) with
      | (.switched mode, rest) => sequence? fuel { s with mode } before rest
      | (.plain mode, rest) =>
        let (p, inner, rest) ← closed? fuel { s with mode } rest
        let s := { inner with mode := s.mode }
        let (p, rest) ← quantified? s.mode p (rest.length + 1) rest
        sequence? fuel s (before.followedBy p) rest
      | (.captured name, rest) =>
        guard (name.all fun name => ! s.names.contains name)
        let number := s.groups + 1
        let names := name.toList ++ s.names
        let (p, inner, rest) ← closed? fuel { s with groups := number, names } rest
        let s := { inner with mode := s.mode }
        let (p, rest) ← quantified? s.mode (.group number p) (rest.length + 1) rest
        sequence? fuel s (before.followedBy p) rest
    | cs => do
      let (p, rest) ← atom? s.mode cs
      let (p, rest) ← quantified? s.mode p (rest.length + 1) rest
      sequence? fuel s (before.followedBy p) rest

def closed? (fuel : Nat) (s : Progress) (cs : List Char) :
    Option (Pattern × Progress × List Char) :=
  match fuel with
  | 0 => none
  | fuel + 1 => do
    guard (s.depth < depthLimit)
    let (p, inner, rest) ← alternatives? fuel { s with depth := s.depth + 1 } cs
    match rest with
    | ')' :: rest => return (p, { inner with depth := s.depth }, rest)
    | _ => none

end

/-! ## Weight -/

def classWeight : CharClass → Nat
  | .range _ last => if last.toNat < 128 then 40 else 300
  | .word => 48000
  | .digit => 6500
  | .blank => 1500
  | .property _ => 40000
  | .except s => classWeight s + 400
  | .either s t => classWeight s + classWeight t
  | .both s t => classWeight s + classWeight t
  | .folded s => 2 * classWeight s

/-- About how many bytes a machine takes that matches the pattern. What is repeated a number of
times is there as many times. -/
def weight : Pattern → Nat
  | .empty => 40
  | .one s => classWeight s
  | .check _ => 40
  | .seq p q => weight p + weight q
  | .alt p q => weight p + weight q + 40
  | .group _ p => weight p + 80
  | .loop ⟨least, none, _⟩ p => max least 1 * weight p + 80
  | .loop ⟨least, some extra, _⟩ p => (least + extra) * (weight p + 40)

def weightLimit : Nat := 10 * 1024 * 1024

/-- The pattern that a text writes, unless it is too large. No character needs more than four
calls. -/
def ofText? (text : String) : Option Pattern :=
  let cs := text.toList
  match alternatives? (4 * cs.length + 4) ⟨{}, 0, [], 0⟩ cs with
  | some (p, _, []) => if weight p ≤ weightLimit then some p else none
  | _ => none

end LogPipeline.Pattern
