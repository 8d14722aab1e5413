import LogPipeline.Number.Digits

namespace LogPipeline.Net

structure IpV4 where
  octets : List Nat
  deriving DecidableEq, Repr

structure IpV6 where
  groups : List Nat
  deriving DecidableEq, Repr

inductive SocketAddress where
  | v4 (ip : IpV4) (port : Nat)
  | v6 (ip : IpV6) (scope : Nat) (port : Nat)
  deriving DecidableEq, Repr

/-! ## Writing -/

def IpV4.text (ip : IpV4) : String :=
  ".".intercalate (ip.octets.map toString)

def hexText (n : Nat) : String :=
  String.ofList (Nat.toDigits 16 n)

def groupsText (groups : List Nat) : String :=
  ":".intercalate (groups.map hexText)

def leadingZeros (groups : List Nat) : Nat :=
  (groups.takeWhile (· = 0)).length

def longestZeros : List Nat → Nat × Nat
  | [] => (0, 0)
  | g :: rest =>
    let (start, length) := longestZeros rest
    let here := leadingZeros (g :: rest)
    if length ≤ here then (0, here) else (start + 1, length)

def IpV6.embedded? (ip : IpV6) : Option IpV4 :=
  match ip.groups with
  | [0, 0, 0, 0, 0, 0xffff, high, low] => some ⟨[high / 256, high % 256, low / 256, low % 256]⟩
  | _ => none

def IpV6.text (ip : IpV6) : String :=
  match ip.embedded? with
  | some v4 => "::ffff:" ++ v4.text
  | none =>
    let (start, length) := longestZeros ip.groups
    if 1 < length then
      groupsText (ip.groups.take start) ++ "::" ++ groupsText (ip.groups.drop (start + length))
    else groupsText ip.groups

namespace SocketAddress

def text : SocketAddress → String
  | .v4 ip port => ip.text ++ ":" ++ toString port
  | .v6 ip 0 port => "[" ++ ip.text ++ "]:" ++ toString port
  | .v6 ip scope port => "[" ++ ip.text ++ "%" ++ toString scope ++ "]:" ++ toString port

def isUnspecified : SocketAddress → Bool
  | .v4 ip _ => ip.octets.all (· = 0)
  | .v6 ip _ _ => ip.groups.all (· = 0)

end SocketAddress

/-! ## Reading -/

def hexValue? (c : Char) : Option Nat :=
  if '0' ≤ c ∧ c ≤ '9' then some (c.toNat - '0'.toNat)
  else if 'a' ≤ c ∧ c ≤ 'f' then some (c.toNat - 'a'.toNat + 10)
  else if 'A' ≤ c ∧ c ≤ 'F' then some (c.toNat - 'A'.toNat + 10)
  else none

def char? (c : Char) : List Char → Option (List Char)
  | d :: rest => if c = d then some rest else none
  | [] => none

def decimal? (bound : Nat) (cs : List Char) : Option (Nat × List Char) :=
  let digits := cs.takeWhile Number.isDigit
  let n := Number.digitsValue digits
  if ! digits.isEmpty ∧ n < bound then some (n, cs.drop digits.length) else none

def octet? (cs : List Char) : Option (Nat × List Char) :=
  let digits := cs.takeWhile Number.isDigit
  if digits.head? = some '0' ∧ 1 < digits.length then none
  else decimal? 256 cs

def group? (cs : List Char) : Option (Nat × List Char) :=
  let digits := cs.takeWhile fun c => (hexValue? c).isSome
  if digits.isEmpty ∨ 4 < digits.length then none
  else some ((digits.filterMap hexValue?).foldl (fun n d => n * 16 + d) 0, cs.drop digits.length)

def ipV4? (cs : List Char) : Option (IpV4 × List Char) := do
  let (a, cs) ← octet? cs
  let (b, cs) ← octet? (← char? '.' cs)
  let (c, cs) ← octet? (← char? '.' cs)
  let (d, cs) ← octet? (← char? '.' cs)
  return (⟨[a, b, c, d]⟩, cs)

structure GroupRun where
  groups : List Nat
  endsInV4 : Bool
  rest : List Char

/-- Reads at most so many groups with colons between them, and a colon in front unless they come
first. The last two may be written as an address of version four. -/
def groupRun (first : Bool) : Nat → List Char → GroupRun
  | 0, cs => ⟨[], false, cs⟩
  | room + 1, cs =>
    let start := if first then some cs else char? ':' cs
    match if room = 0 then none else start.bind ipV4? with
    | some (⟨[a, b, c, d]⟩, rest) => ⟨[a * 256 + b, c * 256 + d], true, rest⟩
    | _ =>
      match start.bind group? with
      | some (g, rest) =>
        let run := groupRun false room rest
        { run with groups := g :: run.groups }
      | none => ⟨[], false, cs⟩

def ipV6? (cs : List Char) : Option (IpV6 × List Char) := do
  let head := groupRun true 8 cs
  if head.groups.length = 8 then return (⟨head.groups⟩, head.rest)
  guard (! head.endsInV4)
  let rest ← char? ':' (← char? ':' head.rest)
  let tail := groupRun true (7 - head.groups.length) rest
  let zeros := 8 - head.groups.length - tail.groups.length
  return (⟨head.groups ++ List.replicate zeros 0 ++ tail.groups⟩, tail.rest)

def scope (cs : List Char) : Nat × List Char :=
  ((char? '%' cs).bind (decimal? UInt32.size)).getD (0, cs)

def port? (cs : List Char) : Option (Nat × List Char) :=
  (char? ':' cs).bind (decimal? UInt16.size)

def socketV4? (cs : List Char) : Option (SocketAddress × List Char) := do
  let (ip, cs) ← ipV4? cs
  let (port, cs) ← port? cs
  return (.v4 ip port, cs)

def socketV6? (cs : List Char) : Option (SocketAddress × List Char) := do
  let (ip, cs) ← ipV6? (← char? '[' cs)
  let (scope, cs) := scope cs
  let (port, cs) ← port? (← char? ']' cs)
  return (.v6 ip scope port, cs)

def SocketAddress.ofText? (text : String) : Option SocketAddress := do
  let cs := text.toList
  let (address, rest) ← socketV4? cs <|> socketV6? cs
  guard rest.isEmpty
  return address

end LogPipeline.Net
