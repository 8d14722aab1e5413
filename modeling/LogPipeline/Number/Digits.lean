namespace LogPipeline.Number

def isDigit (c : Char) : Bool :=
  '0' ≤ c && c ≤ '9'

def digitsValue (digits : List Char) : Nat :=
  digits.foldl (fun n c => n * 10 + (c.toNat - '0'.toNat)) 0

def ofDigits? (digits : List Char) : Option Nat :=
  if digits.isEmpty ∨ ! digits.all isDigit then none else some (digitsValue digits)

def readInteger? (text : String) : Option Int :=
  match text.toList with
  | '-' :: rest => (ofDigits? rest).map fun n => -(n : Int)
  | '+' :: rest => (ofDigits? rest).map Int.ofNat
  | cs => (ofDigits? cs).map Int.ofNat

def readBelow? (bound : Nat) (text : String) : Option Nat :=
  (match text.toList with
    | '+' :: rest => ofDigits? rest
    | cs => ofDigits? cs).filter (· < bound)

end LogPipeline.Number
