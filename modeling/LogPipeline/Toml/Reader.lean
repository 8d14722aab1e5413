import LogPipeline.Toml.Document
import LogPipeline.Toml.Quoted

namespace LogPipeline.Toml

def skipSpaces (cs : List Char) : List Char :=
  cs.dropWhile fun c => c = ' ' || c = '\t'

def skipTrivia : Bool → List Char → Option (List Char)
  | _, [] => some []
  | true, '\n' :: rest => skipTrivia false rest
  | true, '\r' :: '\n' :: rest => skipTrivia false rest
  | true, c :: rest => if isPlain c then skipTrivia true rest else none
  | false, ' ' :: rest => skipTrivia false rest
  | false, '\t' :: rest => skipTrivia false rest
  | false, '\n' :: rest => skipTrivia false rest
  | false, '\r' :: '\n' :: rest => skipTrivia false rest
  | false, '#' :: rest => skipTrivia true rest
  | false, cs => some cs

def lineEnd? (cs : List Char) : Option (List Char) :=
  match skipSpaces cs with
  | [] => some []
  | '#' :: rest =>
    match rest.dropWhile isPlain with
    | [] => some []
    | rest => newline? rest
  | rest => newline? rest

/-! ## Keys -/

def isBareKey (c : Char) : Bool :=
  c.isAlphanum || c = '_' || c = '-'

def simpleKey? : List Char → Option (String × List Char)
  | '"' :: rest => readLine '"' true rest.length [] rest
  | '\'' :: rest => readLine '\'' false rest.length [] rest
  | cs =>
    let key := cs.takeWhile isBareKey
    if key.isEmpty then none else some (String.ofList key, cs.drop key.length)

def nestingLimit : Nat := 80

def keyParts? (cs : List Char) : Nat → Option (List String × String × List Char)
  | 0 => none
  | count + 1 => do
    let (first, rest) ← simpleKey? (skipSpaces cs)
    match skipSpaces rest with
    | '.' :: rest => do
      let (path, last, rest) ← keyParts? rest count
      return (first :: path, last, rest)
    | rest => return ([], first, rest)

def key? (cs : List Char) : Option (List String × String × List Char) :=
  keyParts? cs nestingLimit

/-! ## Values -/

def endsLiteral (c : Char) : Bool :=
  c = ' ' || c = '\t' || c = '\n' || c = '\r' || c = ',' || c = ']' || c = '\x7d' || c = '#'

def splitLiteral (cs : List Char) : List Char × List Char :=
  let first := cs.takeWhile fun c => ! endsLiteral c
  let rest := cs.drop first.length
  match date? first, rest with
  | some [], ' ' :: c :: more =>
    if Number.isDigit c then
      let time := (c :: more).takeWhile fun c => ! endsLiteral c
      (first ++ ' ' :: time, (c :: more).drop time.length)
    else (first, rest)
  | _, _ => (first, rest)

def inlineTable? (pairs : List (List String × String × Value)) : Option Value :=
  (build? (pairs.map fun (path, key, v) => .pair path key v)).map .table

mutual

def value? (depth fuel : Nat) (cs : List Char) : Option (Value × List Char) :=
  match fuel with
  | 0 => none
  | fuel + 1 =>
    match cs with
    | '"' :: _ => (readQuoted cs).map fun (s, rest) => (.str s, rest)
    | '\'' :: _ => (readQuoted cs).map fun (s, rest) => (.str s, rest)
    | '[' :: rest => do
      guard (0 < depth)
      let (items, rest) ← items? (depth - 1) fuel rest []
      return (.arr items, rest)
    | '\x7b' :: rest => do
      guard (0 < depth)
      let (pairs, rest) ← pairs? (depth - 1) fuel rest []
      return (← inlineTable? pairs, rest)
    | cs =>
      let (literal, rest) := splitLiteral cs
      (scalar? literal).map (·, rest)

def items? (depth fuel : Nat) (cs : List Char) (before : List Value) :
    Option (List Value × List Char) :=
  match fuel with
  | 0 => none
  | fuel + 1 => do
    match ← skipTrivia false cs with
    | ']' :: rest => return (before.reverse, rest)
    | cs =>
      let (item, rest) ← value? depth fuel cs
      match ← skipTrivia false rest with
      | ',' :: rest => items? depth fuel rest (item :: before)
      | ']' :: rest => return ((item :: before).reverse, rest)
      | _ => none

def pairs? (depth fuel : Nat) (cs : List Char) (before : List (List String × String × Value)) :
    Option (List (List String × String × Value) × List Char) :=
  match fuel with
  | 0 => none
  | fuel + 1 => do
    match ← skipTrivia false cs with
    | '\x7d' :: rest => return (before.reverse, rest)
    | cs =>
      let (path, key, rest) ← key? cs
      match rest with
      | '=' :: rest =>
        let (v, rest) ← value? depth fuel (skipSpaces rest)
        match ← skipTrivia false rest with
        | ',' :: rest => pairs? depth fuel rest ((path, key, v) :: before)
        | '\x7d' :: rest => return (((path, key, v) :: before).reverse, rest)
        | _ => none
      | _ => none

end

/-! ## Statements -/

def statement? : List Char → Option (Statement × List Char)
  | '[' :: '[' :: rest => do
    let (path, key, rest) ← key? rest
    match rest with
    | ']' :: ']' :: rest => return (.element path key, ← lineEnd? rest)
    | _ => none
  | '[' :: rest => do
    let (path, key, rest) ← key? rest
    match rest with
    | ']' :: rest => return (.header path key, ← lineEnd? rest)
    | _ => none
  | cs => do
    let (path, key, rest) ← key? cs
    match rest with
    | '=' :: rest =>
      let rest := skipSpaces rest
      let (v, rest) ← value? nestingLimit (2 * rest.length + 2) rest
      return (.pair path key v, ← lineEnd? rest)
    | _ => none

/-- Reads all statements, after those given in reverse. Each takes at least one character. -/
def statements? (before : List Statement) (cs : List Char) : Nat → Option (List Statement)
  | 0 => none
  | fuel + 1 => do
    match ← skipTrivia false cs with
    | [] => return before.reverse
    | cs =>
      let (statement, rest) ← statement? cs
      statements? (statement :: before) rest fuel

def parse? (text : String) : Option (List (String × Value)) := do
  let cs := match text.toList with
    | '\ufeff' :: rest => rest
    | cs => cs
  build? (← statements? [] cs (cs.length + 1))

end LogPipeline.Toml
