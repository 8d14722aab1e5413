import LogPipeline.Json.Basic

/-!
# JSON number literals

A literal is read with a significand of 64 bits. Digits that no longer fit count only for the
place of the point, and the value is the significand, rounded to binary64, multiplied or divided
by a power of ten.
-/

namespace LogPipeline.Json

structure NumberLiteral where
  negative : Bool
  whole : List Nat
  fraction : Option (List Nat)
  exponent : Option (Bool × List Nat)
  deriving DecidableEq, Repr

def significandLimit : Nat := 18446744073709551615

def exponentLimit : Nat := 2147483647

def absorb (significand : Nat) : List Nat → Nat × List Nat
  | [] => (significand, [])
  | d :: rest =>
    if significand * 10 + d ≤ significandLimit then absorb (significand * 10 + d) rest
    else (significand, d :: rest)

def digitsValue (digits : List Nat) : Nat :=
  digits.foldl (fun n d => n * 10 + d) 0

def powerOfTen (n : Nat) : Float :=
  Float.ofScientific 1 false n

def scale (x : Float) (exponent : Int) : Nat → Option Float
  | 0 => some x
  | steps + 1 =>
    if 0 ≤ exponent then
      if exponent ≤ 308 then
        let product := x * powerOfTen exponent.toNat
        if product.isInf then none else some product
      else if x == 0 then some x else none
    else if -308 ≤ exponent then some (x / powerOfTen (-exponent).toNat)
    else if x == 0 then some x
    else scale (x / powerOfTen 308) (exponent + 308) steps

def realOf (negative : Bool) (significand : Nat) (exponent : Int) : Json :=
  match scale (Float.ofNat significand) exponent (exponent.natAbs / 308 + 1) with
  | some x => .real (if negative then -x else x)
  | none => .unreadable

/-- The value of a literal. A whole number that 64 bits can hold stays an integer. -/
def NumberLiteral.value (lit : NumberLiteral) : Json :=
  let (whole, wholeLeft) := absorb 0 lit.whole
  let (significand, fractionLeft) := absorb whole (lit.fraction.getD [])
  let places : Nat := (lit.fraction.getD []).length - fractionLeft.length
  let shift : Int := (wholeLeft.length : Int) - places
  match lit.fraction, lit.exponent with
  | none, none =>
    if ! wholeLeft.isEmpty then realOf lit.negative significand shift
    else if ! lit.negative then .int significand
    else if 0 < significand ∧ significand ≤ 9223372036854775808 then .int (-significand)
    else .real (-(Float.ofNat significand))
  | _, none => realOf lit.negative significand shift
  | _, some (down, digits) =>
    let n := digitsValue digits
    if n ≤ exponentLimit then
      realOf lit.negative significand (if down then shift - n else shift + n)
    else if significand ≠ 0 ∧ ! down then .unreadable
    else .real (if lit.negative then -0.0 else 0.0)

end LogPipeline.Json
