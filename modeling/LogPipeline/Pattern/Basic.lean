import LogPipeline.Pattern.CharClass

namespace LogPipeline

inductive Assertion where
  | textStart
  | textEnd
  | lineStart
  | lineEnd
  /-- The start of a line where a carriage return, alone or before a line feed, ends lines too. -/
  | anyLineStart
  | anyLineEnd
  | edge (s : CharClass)
  | noEdge (s : CharClass)
  | runStart (s : CharClass)
  | runEnd (s : CharClass)
  | notAfter (s : CharClass)
  | notBefore (s : CharClass)
  deriving DecidableEq, Repr

def Assertion.holds (a : Assertion) (before after : Option Char) : Bool :=
  match a with
  | .textStart => before.isNone
  | .textEnd => after.isNone
  | .lineStart => before.isNone || before == some '\n'
  | .lineEnd => after.isNone || after == some '\n'
  | .anyLineStart =>
    before.isNone || before == some '\n' || before == some '\r' && after != some '\n'
  | .anyLineEnd =>
    after.isNone || after == some '\r' || after == some '\n' && before != some '\r'
  | .edge s => before.any s.has != after.any s.has
  | .noEdge s => before.any s.has == after.any s.has
  | .runStart s => ! before.any s.has && after.any s.has
  | .runEnd s => before.any s.has && ! after.any s.has
  | .notAfter s => ! before.any s.has
  | .notBefore s => ! after.any s.has

structure Count where
  least : Nat
  /-- How often it may be repeated beyond that; without a number, any number of times. -/
  extra : Option Nat
  greedy : Bool
  deriving DecidableEq, Repr

inductive Pattern where
  | empty
  | one (s : CharClass)
  | check (a : Assertion)
  | seq (first second : Pattern)
  | alt (first second : Pattern)
  | group (number : Nat) (p : Pattern)
  | loop (count : Count) (p : Pattern)
  deriving DecidableEq, Repr, Inhabited

end LogPipeline
