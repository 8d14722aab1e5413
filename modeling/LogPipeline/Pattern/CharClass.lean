import LogPipeline.Text.Blank
import LogPipeline.Text.Folding
import LogPipeline.Text.Property
import LogPipeline.Text.Word

namespace LogPipeline

inductive CharClass where
  | range (first last : Char)
  | word
  | digit
  | blank
  | property (p : Text.Property)
  | except (s : CharClass)
  | either (s t : CharClass)
  | both (s t : CharClass)
  /-- The characters of which some case form is in the set. -/
  | folded (s : CharClass)
  deriving DecidableEq, Repr, Inhabited

namespace CharClass

def has : CharClass → Char → Bool
  | .range first last, c => first ≤ c && c ≤ last
  | .word, c => Text.isWord c
  | .digit, c => Text.isDecimalDigit c
  | .blank, c => Text.isBlank c
  | .property p, c => p.has c
  | .except s, c => ! s.has c
  | .either s t, c => s.has c || t.has c
  | .both s t, c => s.has c && t.has c
  | .folded s, c => (Text.caseForms c).any fun d => s.has d

def single (c : Char) : CharClass := .range c c

def any : CharClass := .range '\x00' (Char.ofNat 0x10FFFF)

def none : CharClass := .except any

def anyOf : List CharClass → CharClass
  | [] => none
  | [s] => s
  | s :: rest => .either s (anyOf rest)

def difference (s t : CharClass) : CharClass := .both s (.except t)

def oneOfTwo (s t : CharClass) : CharClass := .either (difference s t) (difference t s)

def asciiWord : CharClass :=
  anyOf [.range '0' '9', .range 'A' 'Z', single '_', .range 'a' 'z']

def asciiBlank : CharClass :=
  anyOf [.range '\t' '\r', single ' ']

def asciiNamed : List (String × CharClass) :=
  [("alnum", anyOf [.range '0' '9', .range 'A' 'Z', .range 'a' 'z']),
    ("alpha", anyOf [.range 'A' 'Z', .range 'a' 'z']), ("ascii", .range '\x00' '\x7f'),
    ("blank", anyOf [single '\t', single ' ']),
    ("cntrl", anyOf [.range '\x00' '\x1f', single '\x7f']), ("digit", .range '0' '9'),
    ("graph", .range '!' '~'), ("lower", .range 'a' 'z'), ("print", .range ' ' '~'),
    ("punct", anyOf [.range '!' '/', .range ':' '@', .range '[' (Char.ofNat 96),
      .range (Char.ofNat 123) '~']),
    ("space", asciiBlank), ("upper", .range 'A' 'Z'), ("word", asciiWord),
    ("xdigit", anyOf [.range '0' '9', .range 'A' 'F', .range 'a' 'f'])]

end CharClass

end LogPipeline
