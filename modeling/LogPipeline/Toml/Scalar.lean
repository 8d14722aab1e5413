import LogPipeline.Time.Rfc3339
import LogPipeline.Toml.Value

namespace LogPipeline.Toml

def digit? (base : Nat) (c : Char) : Option Nat :=
  let n :=
    if '0' ≤ c ∧ c ≤ '9' then c.toNat - '0'.toNat
    else if 'a' ≤ c ∧ c ≤ 'f' then c.toNat - 'a'.toNat + 10
    else if 'A' ≤ c ∧ c ≤ 'F' then c.toNat - 'A'.toNat + 10
    else base
  if n < base then some n else none

def digits? (base : Nat) : List Char → Option (List Nat)
  | [] => none
  | [c] => (digit? base c).map ([·])
  | c :: '_' :: rest => do return (← digit? base c) :: (← digits? base rest)
  | c :: rest => do return (← digit? base c) :: (← digits? base rest)

def valueOf (base : Nat) (digits : List Nat) : Nat :=
  digits.foldl (fun n d => n * base + d) 0

def splitSign : List Char → Bool × List Char
  | '-' :: rest => (true, rest)
  | '+' :: rest => (false, rest)
  | cs => (false, cs)

def wholeDigits? (cs : List Char) : Option (List Nat) := do
  let digits ← digits? 10 cs
  guard (digits.head? ≠ some 0 ∨ digits.length = 1)
  return digits

def inIntegerRange (n : Int) : Bool :=
  -170141183460469231731687303715884105728 ≤ n &&
    n < 340282366920938463463374607431768211456

def integer? (cs : List Char) : Option Int := do
  let n : Int ← match cs with
    | '0' :: 'x' :: rest => (digits? 16 rest).map fun ds => (valueOf 16 ds : Int)
    | '0' :: 'o' :: rest => (digits? 8 rest).map fun ds => (valueOf 8 ds : Int)
    | '0' :: 'b' :: rest => (digits? 2 rest).map fun ds => (valueOf 2 ds : Int)
    | cs =>
      let (negative, rest) := splitSign cs
      (wholeDigits? rest).map fun ds =>
        if negative then -(valueOf 10 ds : Int) else (valueOf 10 ds : Int)
  guard (inIntegerRange n)
  return n

def signedDigits? (cs : List Char) : Option Int := do
  let (negative, rest) := splitSign cs
  let digits ← digits? 10 rest
  return if negative then -(valueOf 10 digits : Int) else (valueOf 10 digits : Int)

def realParts? (cs : List Char) : Option (List Nat × Int) := do
  let whole := cs.takeWhile fun c => c ≠ '.' ∧ c ≠ 'e' ∧ c ≠ 'E'
  let digits ← wholeDigits? whole
  match cs.drop whole.length with
  | [] => none
  | '.' :: rest =>
    let written := rest.takeWhile fun c => c ≠ 'e' ∧ c ≠ 'E'
    let places ← digits? 10 written
    match rest.drop written.length with
    | [] => return (digits ++ places, -(places.length : Int))
    | _ :: rest => return (digits ++ places, (← signedDigits? rest) - places.length)
  | _ :: rest => return (digits, ← signedDigits? rest)

/-- The least number that rounds to infinity as a binary64 number: half a step above the largest
one. -/
def infinityBound : Nat :=
  18014398509481983 * Nat.pow 2 970

/-- The number rounds to a finite binary64 number. It is computed only if it has about as many
places as the largest one. -/
def isFiniteReal (digits : List Nat) (exponent : Int) : Bool :=
  let digits := digits.dropWhile (· = 0)
  let places := digits.length + exponent
  digits.isEmpty || places < 300 ||
    places < 320 &&
      valueOf 10 digits * Nat.pow 10 exponent.toNat < infinityBound * Nat.pow 10 (-exponent).toNat

def isReal (cs : List Char) : Bool :=
  let body := (splitSign cs).2
  body = ['i', 'n', 'f'] || body = ['n', 'a', 'n'] ||
    (realParts? body).any fun (digits, exponent) => isFiniteReal digits exponent

open Rfc3339 in
def date? (cs : List Char) : Option (List Char) := do
  let (year, cs) ← number? 4 4 cs
  let (month, cs) ← number? 2 2 (← char? '-' cs)
  let (day, cs) ← number? 2 2 (← char? '-' cs)
  guard (Date.isValid ⟨year, month, day⟩)
  return cs

open Rfc3339 in
def time? (cs : List Char) : Option (List Char) := do
  let (hour, cs) ← number? 2 2 cs
  let (minute, cs) ← number? 2 2 (← char? ':' cs)
  match cs with
  | ':' :: rest =>
    let (second, cs) ← number? 2 2 rest
    let (nano, cs) ← fraction? cs
    guard (Clock.isValid ⟨hour, minute, second, nano⟩)
    return cs
  | cs =>
    guard (Clock.isValid ⟨hour, minute, 0, 0⟩)
    return cs

def isMoment (cs : List Char) : Bool :=
  cs.all (·.toNat < 128) &&
  match date? cs with
  | none => time? cs = some []
  | some [] => true
  | some rest =>
    match Rfc3339.separator? rest >>= time? with
    | none => false
    | some [] => true
    | some rest =>
      match Rfc3339.offset? (Rfc3339.char? ':') rest with
      | some (_, []) => true
      | _ => false

def scalar? (cs : List Char) : Option Value :=
  if cs = ['t', 'r', 'u', 'e'] then some (.bool true)
  else if cs = ['f', 'a', 'l', 's', 'e'] then some (.bool false)
  else
    match integer? cs with
    | some n => some (.int n)
    | none =>
      if isReal cs then some (.real (String.ofList cs))
      else if isMoment cs then some (.moment (String.ofList cs))
      else none

end LogPipeline.Toml
