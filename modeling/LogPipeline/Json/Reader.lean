import LogPipeline.Number.Digits
import LogPipeline.Json.Number

/-!
# Reading JSON

`Json.read?` accepts every well-formed document; `Json.parse?` also asks that each literal has a
value and that the nesting stays within the limit, and gives the canonical form.
-/

namespace LogPipeline.Json

open Number (isDigit)

def isSpace (c : Char) : Bool :=
  c = ' ' || c = '\n' || c = '\t' || c = '\r'

def skipSpace (cs : List Char) : List Char :=
  cs.dropWhile isSpace

/-! ## Texts -/

inductive TextUnit where
  | char (c : Char)
  | code (n : Nat)
  deriving DecidableEq, Repr

def hexValue (c : Char) : Option Nat :=
  if '0' ≤ c ∧ c ≤ '9' then some (c.toNat - '0'.toNat)
  else if 'a' ≤ c ∧ c ≤ 'f' then some (c.toNat - 'a'.toNat + 10)
  else if 'A' ≤ c ∧ c ≤ 'F' then some (c.toNat - 'A'.toNat + 10)
  else none

def hexUnit (a b c d : Char) : Option Nat := do
  return (← hexValue a) * 4096 + (← hexValue b) * 256 + (← hexValue c) * 16 + (← hexValue d)

def escaped : Char → Option Char
  | '"' => some '"'
  | '\\' => some '\\'
  | '/' => some '/'
  | 'b' => some '\x08'
  | 'f' => some '\x0c'
  | 'n' => some '\n'
  | 'r' => some '\r'
  | 't' => some '\t'
  | _ => none

def readUnits (units : List TextUnit) : List Char → Option (List TextUnit × List Char)
  | [] => none
  | '"' :: rest => some (units, rest)
  | '\\' :: 'u' :: a :: b :: c :: d :: rest =>
    match hexUnit a b c d with
    | some n => readUnits (.code n :: units) rest
    | none => none
  | '\\' :: c :: rest =>
    match escaped c with
    | some c => readUnits (.char c :: units) rest
    | none => none
  | c :: rest => if c.toNat < 0x20 then none else readUnits (.char c :: units) rest

def decodeUnits : List TextUnit → Option (List Char)
  | [] => some []
  | .char c :: rest => (decodeUnits rest).map (c :: ·)
  | .code n :: .code m :: rest =>
    if 0xD800 ≤ n ∧ n < 0xDC00 then
      if 0xDC00 ≤ m ∧ m < 0xE000 then
        (decodeUnits rest).map (Char.ofNat (0x10000 + (n - 0xD800) * 1024 + (m - 0xDC00)) :: ·)
      else none
    else if 0xDC00 ≤ n ∧ n < 0xE000 then none
    else (decodeUnits (.code m :: rest)).map (Char.ofNat n :: ·)
  | .code n :: rest =>
    if 0xD800 ≤ n ∧ n < 0xE000 then none else (decodeUnits rest).map (Char.ofNat n :: ·)

/-- Reads a text after its opening quote; the inner option is empty when it has no value. -/
def readText (cs : List Char) : Option (Option String × List Char) := do
  let (units, rest) ← readUnits [] cs
  return ((decodeUnits units.reverse).map String.ofList, rest)

/-! ## Numbers -/

def digitValue (c : Char) : Nat :=
  c.toNat - '0'.toNat

def takeDigits (cs : List Char) : List Nat × List Char :=
  ((cs.takeWhile isDigit).map digitValue, cs.dropWhile isDigit)

def readFraction : List Char → Option (Option (List Nat) × List Char)
  | '.' :: rest =>
    match takeDigits rest with
    | ([], _) => none
    | (digits, rest) => some (some digits, rest)
  | cs => some (none, cs)

def readExponentPart (cs : List Char) : Option (Option (Bool × List Nat) × List Char) :=
  let (down, cs) := match cs with
    | '-' :: rest => (true, rest)
    | '+' :: rest => (false, rest)
    | cs => (false, cs)
  match takeDigits cs with
  | ([], _) => none
  | (digits, rest) => some (some (down, digits), rest)

def readExponent : List Char → Option (Option (Bool × List Nat) × List Char)
  | 'e' :: rest => readExponentPart rest
  | 'E' :: rest => readExponentPart rest
  | cs => some (none, cs)

def readNumber (cs : List Char) : Option (NumberLiteral × List Char) := do
  let (negative, cs) := match cs with
    | '-' :: rest => (true, rest)
    | cs => (false, cs)
  let (whole, cs) := takeDigits cs
  guard (whole ≠ [] ∧ (whole.head? ≠ some 0 ∨ whole = [0]))
  let (fraction, cs) ← readFraction cs
  let (exponent, cs) ← readExponent cs
  return ({ negative, whole, fraction, exponent }, cs)

/-! ## Values -/

/-- The members of an object as a value; a name without a value spoils the whole object. -/
def objOf (members : List (Option String × Json)) : Json :=
  match members.mapM fun m => m.1.map (·, m.2) with
  | some members => .obj members
  | none => .unreadable

mutual

def readValue (fuel : Nat) (cs : List Char) : Option (Json × List Char) :=
  match fuel with
  | 0 => none
  | fuel + 1 =>
    match skipSpace cs with
    | 'n' :: 'u' :: 'l' :: 'l' :: rest => some (.null, rest)
    | 't' :: 'r' :: 'u' :: 'e' :: rest => some (.bool true, rest)
    | 'f' :: 'a' :: 'l' :: 's' :: 'e' :: rest => some (.bool false, rest)
    | '"' :: rest =>
      (readText rest).map fun (text, rest) => (text.elim .unreadable .str, rest)
    | '[' :: rest =>
      match skipSpace rest with
      | ']' :: rest => some (.arr [], rest)
      | _ => (readItems fuel rest []).map fun (items, rest) => (.arr items, rest)
    | '\x7b' :: rest =>
      match skipSpace rest with
      | '\x7d' :: rest => some (.obj [], rest)
      | _ => (readMembers fuel rest []).map fun (members, rest) => (objOf members, rest)
    | cs => (readNumber cs).map fun (number, rest) => (number.value, rest)

def readItems (fuel : Nat) (cs : List Char) (before : List Json) :
    Option (List Json × List Char) :=
  match fuel with
  | 0 => none
  | fuel + 1 => do
    let (item, rest) ← readValue fuel cs
    match skipSpace rest with
    | ',' :: rest => readItems fuel rest (item :: before)
    | ']' :: rest => some ((item :: before).reverse, rest)
    | _ => none

def readMembers (fuel : Nat) (cs : List Char) (before : List (Option String × Json)) :
    Option (List (Option String × Json) × List Char) :=
  match fuel with
  | 0 => none
  | fuel + 1 =>
    match skipSpace cs with
    | '"' :: rest => do
      let (name, rest) ← readText rest
      match skipSpace rest with
      | ':' :: rest =>
        let (value, rest) ← readValue fuel rest
        match skipSpace rest with
        | ',' :: rest => readMembers fuel rest ((name, value) :: before)
        | '\x7d' :: rest => some (((name, value) :: before).reverse, rest)
        | _ => none
      | _ => none
    | _ => none

end

/-- The value of a well-formed document. Each bracket is followed by at most two calls, so twice
the length of the text bounds them. -/
def read? (text : String) : Option Json :=
  let cs := text.toList
  match readValue (2 * cs.length + 2) cs with
  | some (value, rest) => if (skipSpace rest).isEmpty then some value else none
  | none => none

def parse? (text : String) : Option Json :=
  (read? text).bind (strict? depthLimit)

end LogPipeline.Json
