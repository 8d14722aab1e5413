import LogPipeline.Time.Calendar

/-!
# Instants

An instant in universal time with nanoseconds. A leap second is kept as the second before it with
a fraction of one second or more.
-/

namespace LogPipeline

/-- Seconds of the epoch that begins with the year 1970, and nanoseconds within the second. -/
structure Timestamp where
  second : Int
  nano : Nat
  deriving DecidableEq, Repr, Inhabited

namespace Timestamp

def epochDay : Int := 719528

def nanosPerSecond : Nat := 1000000000

def ofSeconds (n : Int) : Timestamp := ⟨n, 0⟩

def ofMillis (n : Int) : Timestamp :=
  ⟨n / 1000, (n % 1000).toNat * 1000000⟩

def millis (t : Timestamp) : Int :=
  t.second * 1000 + t.nano / 1000000

instance : LT Timestamp where
  lt a b := a.second < b.second ∨ a.second = b.second ∧ a.nano < b.nano

instance (a b : Timestamp) : Decidable (a < b) :=
  inferInstanceAs (Decidable (a.second < b.second ∨ a.second = b.second ∧ a.nano < b.nano))

def firstYear : Int := -262143

def lastYear : Int := 262142

def firstSecond : Int := (daysBeforeYear firstYear - epochDay) * 86400

def endSecond : Int := (daysBeforeYear (lastYear + 1) - epochDay) * 86400

def inRange (t : Timestamp) : Bool :=
  firstSecond ≤ t.second && t.second < endSecond

def earliest : Timestamp := ⟨firstSecond, 0⟩

def checked (t : Timestamp) : Option Timestamp :=
  if t.inRange then some t else none

def millisBetween (earlier later : Timestamp) : Int :=
  Int.tdiv ((later.second - earlier.second) * nanosPerSecond + later.nano - earlier.nano) 1000000

/-- The instant `nanos` nanoseconds before this one, if it can be kept. What does not leave a leap
second only takes from its fraction. -/
def minus? (t : Timestamp) (nanos : Nat) : Option Timestamp :=
  if nanosPerSecond ≤ t.nano ∧ nanos < nanosPerSecond then checked ⟨t.second, t.nano - nanos⟩
  else
    let total := t.second * nanosPerSecond + t.nano - nanos
    checked ⟨total / nanosPerSecond, (total % nanosPerSecond).toNat⟩

def before (t : Timestamp) (nanos : Nat) : Timestamp :=
  (t.minus? nanos).getD earliest

end Timestamp

end LogPipeline
