import LogPipeline.Toml.Scalar

namespace LogPipeline.Toml

def isPlain (c : Char) : Bool :=
  c = '\t' || 0x20 ≤ c.toNat && c.toNat ≠ 0x7F

def codePoint? (count : Nat) (cs : List Char) : Option (Char × List Char) := do
  let written := cs.take count
  guard (written.length = count)
  let n := valueOf 16 (← written.mapM (digit? 16))
  guard (n < 0xD800 ∨ 0xE000 ≤ n ∧ n < 0x110000)
  return (Char.ofNat n, cs.drop count)

def escape? : List Char → Option (Char × List Char)
  | 'b' :: rest => some ('\x08', rest)
  | 't' :: rest => some ('\t', rest)
  | 'n' :: rest => some ('\n', rest)
  | 'f' :: rest => some ('\x0c', rest)
  | 'r' :: rest => some ('\r', rest)
  | 'e' :: rest => some ('\x1b', rest)
  | '"' :: rest => some ('"', rest)
  | '\\' :: rest => some ('\\', rest)
  | 'x' :: rest => codePoint? 2 rest
  | 'u' :: rest => codePoint? 4 rest
  | 'U' :: rest => codePoint? 8 rest
  | _ => none

def readLine (quote : Char) (escapes : Bool) (fuel : Nat) (before : List Char) :
    List Char → Option (String × List Char)
  | [] => none
  | c :: rest =>
    match fuel with
    | 0 => none
    | fuel + 1 =>
      if c = quote then some (String.ofList before.reverse, rest)
      else if escapes ∧ c = '\\' then
        match escape? rest with
        | some (c, rest) => readLine quote escapes fuel (c :: before) rest
        | none => none
      else if isPlain c then readLine quote escapes fuel (c :: before) rest
      else none

def newline? : List Char → Option (List Char)
  | '\n' :: rest => some rest
  | '\r' :: '\n' :: rest => some rest
  | _ => none

def skipBlankLines : List Char → List Char
  | ' ' :: rest => skipBlankLines rest
  | '\t' :: rest => skipBlankLines rest
  | '\n' :: rest => skipBlankLines rest
  | '\r' :: '\n' :: rest => skipBlankLines rest
  | cs => cs

def joinLines? (cs : List Char) : Option (List Char) :=
  (newline? (cs.dropWhile fun c => c = ' ' || c = '\t')).map skipBlankLines

/-- Reads up to the three quotes that end a text of several lines. Two more quotes before them
belong to the text, and so does each line end as it is written. -/
def readLines (quote : Char) (escapes : Bool) (fuel : Nat) (before : List Char)
    (cs : List Char) : Option (String × List Char) :=
  match fuel with
  | 0 => none
  | fuel + 1 =>
    let quotes := min 5 (cs.takeWhile (· = quote)).length
    if 3 ≤ quotes then
      some (String.ofList (before.reverse ++ List.replicate (quotes - 3) quote), cs.drop quotes)
    else
      match cs with
      | [] => none
      | '\r' :: '\n' :: rest => readLines quote escapes fuel ('\n' :: '\r' :: before) rest
      | c :: rest =>
        if escapes ∧ c = '\\' then
          match joinLines? rest with
          | some rest => readLines quote escapes fuel before rest
          | none =>
            match escape? rest with
            | some (c, rest) => readLines quote escapes fuel (c :: before) rest
            | none => none
        else if c = '\n' ∨ isPlain c then readLines quote escapes fuel (c :: before) rest
        else none

def readBlock (quote : Char) (escapes : Bool) (cs : List Char) : Option (String × List Char) :=
  readLines quote escapes (cs.length + 1) [] ((newline? cs).getD cs)

def readQuoted : List Char → Option (String × List Char)
  | '"' :: '"' :: '"' :: rest => readBlock '"' true rest
  | '\'' :: '\'' :: '\'' :: rest => readBlock '\'' false rest
  | '"' :: rest => readLine '"' true rest.length [] rest
  | '\'' :: rest => readLine '\'' false rest.length [] rest
  | _ => none

end LogPipeline.Toml
