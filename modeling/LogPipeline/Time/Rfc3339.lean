import LogPipeline.Number.Digits
import LogPipeline.Text.Blank
import LogPipeline.Time.Timestamp

/-!
# RFC 3339 texts

`Rfc3339.write` prints an instant, `Rfc3339.read?` accepts what the format allows, and
`Rfc3339.readLenient?` also takes shorter numbers, larger years and blanks between the parts.
-/

namespace LogPipeline.Rfc3339

open Number (isDigit digitsValue)

/-! ## Writing -/

def padded (width : Nat) (n : Nat) : String :=
  let digits := toString n
  String.ofList (List.replicate (width - digits.length) '0') ++ digits

def yearText (year : Int) : String :=
  if 0 ≤ year ∧ year ≤ 9999 then padded 4 year.toNat
  else if year < 0 then "-" ++ padded 4 year.natAbs
  else "+" ++ padded 4 year.natAbs

def fractionText (nano : Nat) : String :=
  if nano = 0 then ""
  else if nano % 1000000 = 0 then "." ++ padded 3 (nano / 1000000)
  else if nano % 1000 = 0 then "." ++ padded 6 (nano / 1000)
  else "." ++ padded 9 nano

def write (zone : String) (t : Timestamp) : String :=
  let date := Date.ofDayNumber (t.second / 86400 + Timestamp.epochDay)
  let inDay := (t.second % 86400).toNat
  let leap := t.nano / Timestamp.nanosPerSecond
  yearText date.year ++ "-" ++ padded 2 date.month ++ "-" ++ padded 2 date.day ++ "T" ++
    padded 2 (inDay / 3600) ++ ":" ++ padded 2 (inDay / 60 % 60) ++ ":" ++
    padded 2 (inDay % 60 + leap) ++ fractionText (t.nano % Timestamp.nanosPerSecond) ++ zone

/-! ## Parts of a text -/

def number? (least most : Nat) (cs : List Char) : Option (Nat × List Char) :=
  let digits := (cs.take most).takeWhile isDigit
  if digits.length < least then none else some (digitsValue digits, cs.drop digits.length)

def char? (c : Char) : List Char → Option (List Char)
  | [] => none
  | d :: rest => if c = d then some rest else none

def separator? : List Char → Option (List Char)
  | 't' :: rest => some rest
  | 'T' :: rest => some rest
  | ' ' :: rest => some rest
  | _ => none

/-- The nanoseconds after the seconds. Digits after the ninth do not count. -/
def fraction? : List Char → Option (Nat × List Char)
  | '.' :: rest =>
    let digits := rest.takeWhile isDigit
    let used := digits.take 9
    if used.isEmpty then none
    else some (digitsValue used * Nat.pow 10 (9 - used.length), rest.drop digits.length)
  | cs => some (0, cs)

/-- The minutes by which a local time is ahead of universal time. The first function passes over
what stands between hours and minutes. -/
def offset? (between : List Char → Option (List Char)) :
    List Char → Option (Int × List Char)
  | [] => none
  | c :: rest =>
    if c = 'Z' ∨ c = 'z' then some (0, rest)
    else do
      let behind := c = '-' || c = '\u2212'
      guard (behind ∨ c = '+')
      let (hours, rest) ← number? 2 2 rest
      let rest ← between rest
      let (minutes, rest) ← number? 2 2 rest
      guard (hours < 24 ∧ minutes < 60)
      let ahead : Int := (hours * 60 + minutes : Nat)
      return (if behind then -ahead else ahead, rest)

structure Clock where
  hour : Nat
  minute : Nat
  /-- Up to 60, which names a leap second. -/
  second : Nat
  nano : Nat

def Clock.isValid (c : Clock) : Bool :=
  c.hour < 24 && c.minute < 60 && c.second ≤ 60

def instant? (date : Date) (clock : Clock) (ahead : Int) : Option Timestamp := do
  guard (date.isValid ∧ Timestamp.firstYear ≤ date.year ∧ date.year ≤ Timestamp.lastYear)
  guard clock.isValid
  let leap := clock.second / 60
  let inDay : Nat := clock.hour * 3600 + clock.minute * 60 + (clock.second - leap)
  let second := (date.dayNumber - Timestamp.epochDay) * 86400 + inDay - ahead * 60
  Timestamp.checked ⟨second, clock.nano + leap * Timestamp.nanosPerSecond⟩

/-! ## Reading -/

def read? (text : String) : Option Timestamp := do
  let cs := text.toList
  let (year, cs) ← number? 4 4 cs
  let (month, cs) ← number? 2 2 (← char? '-' cs)
  let (day, cs) ← number? 2 2 (← char? '-' cs)
  let (hour, cs) ← number? 2 2 (← separator? cs)
  let (minute, cs) ← number? 2 2 (← char? ':' cs)
  let (second, cs) ← number? 2 2 (← char? ':' cs)
  let (nano, cs) ← fraction? cs
  let (ahead, cs) ← offset? (char? ':') cs
  guard cs.isEmpty
  instant? ⟨year, month, day⟩ ⟨hour, minute, second, nano⟩ ahead

def spacedNumber? (most : Nat) (cs : List Char) : Option (Nat × List Char) :=
  number? 1 most (Text.trimStart cs)

def spacedYear? (cs : List Char) : Option (Int × List Char) :=
  match Text.trimStart cs with
  | '-' :: rest => (number? 1 rest.length rest).map fun (n, rest) => (-(n : Int), rest)
  | '+' :: rest => (number? 1 rest.length rest).map fun (n, rest) => ((n : Int), rest)
  | cs => (number? 1 4 cs).map fun (n, rest) => ((n : Int), rest)

def spacedChar? (c : Char) (cs : List Char) : Option (List Char) :=
  char? c (Text.trimStart cs)

def skipColonsAndBlanks (cs : List Char) : List Char :=
  cs.dropWhile fun c => c = ':' || Text.isBlank c

def zone? : List Char → Option (Int × List Char)
  | u :: t :: c :: rest =>
    if u.toUpper = 'U' ∧ t.toUpper = 'T' ∧ c.toUpper = 'C' then some (0, rest)
    else offset? (some ∘ skipColonsAndBlanks) (u :: t :: c :: rest)
  | cs => offset? (some ∘ skipColonsAndBlanks) cs

def readLenient? (text : String) : Option Timestamp := do
  let (year, cs) ← spacedYear? text.toList
  let (month, cs) ← spacedNumber? 2 (← spacedChar? '-' cs)
  let (day, cs) ← spacedNumber? 2 (← spacedChar? '-' cs)
  let (hour, cs) ← spacedNumber? 2 (← separator? cs)
  let (minute, cs) ← spacedNumber? 2 (← spacedChar? ':' cs)
  let (second, cs) ← spacedNumber? 2 (← spacedChar? ':' cs)
  let (nano, cs) ← fraction? cs
  let (ahead, cs) ← zone? (Text.trimStart cs)
  guard (Text.trimStart cs).isEmpty
  instant? ⟨year, month, day⟩ ⟨hour, minute, second, nano⟩ ahead

end LogPipeline.Rfc3339
