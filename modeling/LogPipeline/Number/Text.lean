import LogPipeline.Number.Shortest

namespace LogPipeline.Number

/-- How a format writes decimals. The *point position* of a decimal is the number of its digits
before the point, negative when zeros follow the point. -/
structure DecimalStyle where
  leastPosition : Int
  mostPosition : Int
  wholeSuffix : String
  positiveExponent : String

/-- JSON documents write numbers from `0.00001` up to below `1e+16` without an exponent. -/
def jsonStyle : DecimalStyle :=
  { leastPosition := -4, mostPosition := 16, wholeSuffix := ".0", positiveExponent := "e+" }

def zeros (n : Nat) : String :=
  String.ofList (List.replicate n '0')

def Decimal.text (style : DecimalStyle) (d : Decimal) : String :=
  let digits := toString d.digits
  let count := digits.length
  let position : Int := count + d.exponent
  if d.digits = 0 then "0" ++ style.wholeSuffix
  else if 0 ≤ d.exponent ∧ position ≤ style.mostPosition then
    digits ++ zeros d.exponent.toNat ++ style.wholeSuffix
  else if 0 < position ∧ position ≤ style.mostPosition then
    String.ofList (digits.toList.take position.toNat) ++ "." ++
      String.ofList (digits.toList.drop position.toNat)
  else if style.leastPosition ≤ position ∧ position ≤ 0 then
    "0." ++ zeros (-position).toNat ++ digits
  else
    let lead := String.ofList (digits.toList.take 1)
    let rest := String.ofList (digits.toList.drop 1)
    let exponent := position - 1
    lead ++ (if rest.isEmpty then "" else "." ++ rest) ++
      (if 0 ≤ exponent then style.positiveExponent ++ toString exponent else "e" ++ toString exponent)

def floatText (style : DecimalStyle) (x : Float) : String :=
  let d := Dyadic.ofFloat x
  (if d.negative then "-" else "") ++ (shortest d).text style

end LogPipeline.Number
