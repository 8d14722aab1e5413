import LogPipeline.Json.Basic
import LogPipeline.Number.Text

namespace LogPipeline.Json

def hexDigit (n : Nat) : Char :=
  Char.ofNat (if n < 10 then '0'.toNat + n else 'a'.toNat + (n - 10))

def escape (c : Char) : List Char :=
  match c with
  | '"' => ['\\', '"']
  | '\\' => ['\\', '\\']
  | '\x08' => ['\\', 'b']
  | '\x0c' => ['\\', 'f']
  | '\n' => ['\\', 'n']
  | '\r' => ['\\', 'r']
  | '\t' => ['\\', 't']
  | c => if c.toNat < 0x20 then ['\\', 'u', '0', '0', hexDigit (c.toNat / 16), hexDigit (c.toNat % 16)]
    else [c]

def quote (text : String) : String :=
  text.foldl (fun out c => (escape c).foldl String.push out) "\"" |>.push '"'

mutual

def text : Json → String
  | .null => "null"
  | .bool true => "true"
  | .bool false => "false"
  | .int n => toString n
  | .real x => Number.floatText Number.jsonStyle x
  | .str s => quote s
  | .arr items => "[" ++ itemsText items ++ "]"
  | .obj members => "\x7b" ++ membersText members ++ "\x7d"
  | .unreadable => "null"

def itemsText : List Json → String
  | [] => ""
  | [item] => item.text
  | item :: rest => item.text ++ "," ++ itemsText rest

def membersText : List (String × Json) → String
  | [] => ""
  | [(name, value)] => quote name ++ ":" ++ value.text
  | (name, value) :: rest => quote name ++ ":" ++ value.text ++ "," ++ membersText rest

end

mutual

/-- The same value with texts in the stead of the numbers that a reader may round: fractions, and
integers that binary64 cannot tell apart. -/
def portable : Json → Json
  | .int n => if n.natAbs < 9007199254740992 then .int n else .str (toString n)
  | .real x => .str (Json.real x).text
  | .arr items => .arr (portableItems items)
  | .obj members => .obj (portableMembers members)
  | other => other

def portableItems : List Json → List Json
  | [] => []
  | item :: rest => item.portable :: portableItems rest

def portableMembers : List (String × Json) → List (String × Json)
  | [] => []
  | (name, value) :: rest => (name, value.portable) :: portableMembers rest

end

end LogPipeline.Json
